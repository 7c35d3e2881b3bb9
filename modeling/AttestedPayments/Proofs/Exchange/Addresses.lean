import AttestedPayments.Proofs.Exchange.Acknowledgement

/-!
# A provider's answers are all that is added

* `AddressProvider.Answers` — an output with the provider's answer for its currency and its address.
* `AddressProvider.mapM_enrich_eq_error_iff` — asking for several outputs ends with the first that the
  provider refuses.
* `MessageBody.bare_withOutputs` — outputs of another body that differ in what is known only.
* `parseWithAddresses_of_parseAs` — the message is read first, then the provider is asked.

Principal result: `parseWithAddresses_adds_answers`.
-/

set_option autoImplicit false

namespace AttestedPayments

open Codec (sizeLimit)

variable {octets : Bytes} {recipient : Option Recipient} {provider : AddressProvider}

/-! ## Outputs -/

namespace AddressProvider

/-- The provider knows about the address of an output. -/
def Knows (provider : AddressProvider) (output : Output) : Prop :=
  ∃ information, provider output.currency output.script = .ok information

/-- The second output is the first with the provider's answer for its currency and address. -/
def Answers (provider : AddressProvider) (output enriched : Output) : Prop :=
  ∃ information, provider output.currency output.script = .ok information ∧
    enriched = { output with addressInformation := some information }

theorem enrich_eq_ok_iff {output enriched : Output} :
    provider.enrich output = .ok enriched ↔ provider.Answers output enriched := by
  unfold enrich Answers
  cases provider output.currency output.script with
  | error fault => simp
  | ok information => simp [eq_comm]

theorem enrich_eq_error_iff {output : Output} {fault : Fault} :
    provider.enrich output = .error fault ↔
      ∃ cause, provider output.currency output.script = .error cause ∧ fault = .lookup cause := by
  unfold enrich
  cases provider output.currency output.script with
  | error cause => simp [eq_comm]
  | ok information => simp

theorem exists_enrich_iff {output : Output} :
    (∃ enriched, provider.enrich output = .ok enriched) ↔ provider.Knows output := by
  constructor
  · rintro ⟨_, h⟩
    obtain ⟨information, hinformation, _⟩ := enrich_eq_ok_iff.mp h
    exact ⟨information, hinformation⟩
  · rintro ⟨information, hinformation⟩
    exact ⟨_, enrich_eq_ok_iff.mpr ⟨information, hinformation, rfl⟩⟩

/-- Every output gets its own answer, in their order. -/
theorem mapM_enrich_eq_ok_iff {outputs enriched : List Output} :
    outputs.mapM provider.enrich = .ok enriched ↔
      List.Forall₂ provider.Answers outputs enriched := by
  simp only [mapM_eq_ok_iff, enrich_eq_ok_iff]

theorem exists_mapM_enrich_iff {outputs : List Output} :
    (∃ enriched, outputs.mapM provider.enrich = .ok enriched) ↔
      ∀ output ∈ outputs, provider.Knows output := by
  simp only [exists_mapM_eq_ok_iff, exists_enrich_iff]

/-- **Asking for several outputs ends with the first that the provider refuses.** -/
theorem mapM_enrich_eq_error_iff {outputs : List Output} {fault : Fault} :
    outputs.mapM provider.enrich = .error fault ↔
      ∃ before output after cause, outputs = before ++ output :: after ∧
        (∀ earlier ∈ before, provider.Knows earlier) ∧
        provider output.currency output.script = .error cause ∧ fault = .lookup cause := by
  simp only [mapM_eq_error_iff, exists_enrich_iff, enrich_eq_error_iff, exists_and_left]

/-- Nothing but what is known about the addresses is new. -/
theorem map_bare_of_answers {outputs enriched : List Output}
    (h : List.Forall₂ provider.Answers outputs enriched) :
    enriched.map Output.bare = outputs.map Output.bare := by
  induction h with
  | nil => rfl
  | cons hanswer _ ih =>
    obtain ⟨information, _, rfl⟩ := hanswer
    rw [List.map_cons, List.map_cons, ih]
    rfl

end AddressProvider

/-! ## Bodies -/

namespace MessageBody

/-- Requests have outputs to ask about. -/
theorem exists_outputs? (body : MessageBody)
    (h : body.messageType = .invoiceRequest ∨ body.messageType = .paymentRequest) :
    ∃ outputs, body.outputs? = some outputs := by
  cases body with
  | invoiceRequest b => exact ⟨_, rfl⟩
  | paymentRequest b => exact ⟨_, rfl⟩
  | payment b => rcases h with h | h <;> cases h
  | paymentAck b => rcases h with h | h <;> cases h

variable {body : MessageBody} {before after : List Output}

theorem outputs?_withOutputs (h : body.outputs? = some before) :
    (body.withOutputs after).outputs? = some after := by
  cases body with
  | invoiceRequest b => rfl
  | paymentRequest b => rfl
  | payment b => cases h
  | paymentAck b => cases h

/-- Outputs that differ in nothing but what is known about their addresses make no other body. -/
theorem bare_withOutputs (h : body.outputs? = some before)
    (hbare : after.map Output.bare = before.map Output.bare) :
    (body.withOutputs after).bare = body.bare := by
  cases body with
  | invoiceRequest b =>
    cases h
    simp only [withOutputs, bare, InvoiceRequest.bare, hbare]
  | paymentRequest b =>
    cases h
    simp only [withOutputs, bare, PaymentRequest.bare, PaymentDetails.bare, hbare]
  | payment b => cases h
  | paymentAck b => cases h

end MessageBody

/-! ## Messages -/

section

variable {type : MessageType} (htype : type = .invoiceRequest ∨ type = .paymentRequest)

include htype

/-- Without a provider the octets are not looked at. -/
theorem parseWithAddresses_none :
    parseWithAddresses type none octets recipient = .error (.unsupported .noProvider) := by
  rcases htype with rfl | rfl <;> rfl

/-- With a provider the message is read first. -/
theorem parseWithAddresses_some :
    parseWithAddresses type (some provider) octets recipient = (do
      let parsed ← parseAs type octets recipient
      match parsed.body.outputs? with
      | none => .error (.unsupported (.noAddresses type))
      | some outputs =>
        let outputs ← outputs.mapM provider.enrich
        .ok { parsed with body := parsed.body.withOutputs outputs }) := by
  rcases htype with rfl | rfl <;> rfl

/-- A message that cannot be read is refused for that. -/
theorem parseWithAddresses_of_error {fault : Fault}
    (h : parseAs type octets recipient = .error fault) :
    parseWithAddresses type (some provider) octets recipient = .error fault := by
  rw [parseWithAddresses_some htype, h]
  rfl

/-- **Of a message that was read the provider is asked about every output.** -/
theorem parseWithAddresses_of_parseAs {parsed : OpenedMessage} {outputs : List Output}
    (h : parseAs type octets recipient = .ok parsed)
    (houtputs : parsed.body.outputs? = some outputs) :
    parseWithAddresses type (some provider) octets recipient = (do
      let outputs ← outputs.mapM provider.enrich
      .ok { parsed with body := parsed.body.withOutputs outputs }) := by
  rw [parseWithAddresses_some htype, h]
  show (match parsed.body.outputs? with | none => _ | some _ => _) = _
  rw [houtputs]

/-- **What is read with addresses**: the message as it is read without, and the provider's answers. -/
theorem parseWithAddresses_eq_ok_iff {enriched : OpenedMessage} :
    parseWithAddresses type (some provider) octets recipient = .ok enriched ↔
      ∃ parsed outputs answered, parseAs type octets recipient = .ok parsed ∧
        parsed.body.outputs? = some outputs ∧ List.Forall₂ provider.Answers outputs answered ∧
        enriched = { parsed with body := parsed.body.withOutputs answered } := by
  constructor
  · intro h
    cases hparse : parseAs type octets recipient with
    | error fault =>
      rw [parseWithAddresses_of_error htype hparse] at h
      cases h
    | ok parsed =>
      obtain ⟨outputs, houtputs⟩ := parsed.body.exists_outputs?
        (by rwa [messageType_of_parseAs hparse])
      rw [parseWithAddresses_of_parseAs htype hparse houtputs] at h
      obtain ⟨answered, hanswered, h⟩ := bind_eq_ok_iff.mp h
      cases h
      exact ⟨parsed, outputs, answered, rfl, houtputs,
        AddressProvider.mapM_enrich_eq_ok_iff.mp hanswered, rfl⟩
  · rintro ⟨parsed, outputs, answered, hparse, houtputs, hanswered, rfl⟩
    rw [parseWithAddresses_of_parseAs htype hparse houtputs]
    exact bind_eq_ok_iff.mpr ⟨answered, AddressProvider.mapM_enrich_eq_ok_iff.mpr hanswered, rfl⟩

/-- **Why a message is not read with addresses**: it is not read at all, or an output is refused. -/
theorem parseWithAddresses_eq_error_iff {fault : Fault} :
    parseWithAddresses type (some provider) octets recipient = .error fault ↔
      parseAs type octets recipient = .error fault ∨
        ∃ parsed outputs, parseAs type octets recipient = .ok parsed ∧
          parsed.body.outputs? = some outputs ∧
          outputs.mapM provider.enrich = .error fault := by
  cases hparse : parseAs type octets recipient with
  | error other =>
    rw [parseWithAddresses_of_error htype hparse]
    exact ⟨.inl, fun h => h.resolve_right fun ⟨_, _, hnot, _⟩ => nomatch hnot⟩
  | ok parsed =>
    obtain ⟨outputs, houtputs⟩ := parsed.body.exists_outputs?
      (by rwa [messageType_of_parseAs hparse])
    rw [parseWithAddresses_of_parseAs htype hparse houtputs, bind_eq_error_iff]
    constructor
    · rintro (h | ⟨_, _, h⟩)
      · exact .inr ⟨parsed, outputs, rfl, houtputs, h⟩
      · cases h
    · rintro (h | ⟨_, _, h, houtputs', hrefused⟩)
      · cases h
      · cases h
        cases houtputs.symm.trans houtputs'
        exact .inl hrefused

end

/-- **A provider's answers are all that is added.** Requests are not read with addresses unless there
is a provider. With one they are read exactly if they are read without and the provider knows every
address; the result is the same message, and each of its outputs has the answer for its own currency
and address. Otherwise the fault is the one of reading the message, or the provider's for the first
output that it does not know. -/
theorem parseWithAddresses_adds_answers {type : MessageType}
    (htype : type = .invoiceRequest ∨ type = .paymentRequest) (octets : Bytes)
    (recipient : Option Recipient) :
    parseWithAddresses type none octets recipient = .error (.unsupported .noProvider) ∧
    ∀ provider : AddressProvider,
      ((∃ enriched, parseWithAddresses type (some provider) octets recipient = .ok enriched) ↔
        ∃ parsed outputs, parseAs type octets recipient = .ok parsed ∧
          parsed.body.outputs? = some outputs ∧ ∀ output ∈ outputs, provider.Knows output) ∧
      (∀ enriched, parseWithAddresses type (some provider) octets recipient = .ok enriched →
        ∃ parsed outputs answered, parseAs type octets recipient = .ok parsed ∧
          enriched.metadata = parsed.metadata ∧ enriched.body.bare = parsed.body ∧
          parsed.body.outputs? = some outputs ∧ enriched.body.outputs? = some answered ∧
          List.Forall₂ provider.Answers outputs answered) ∧
      ∀ fault, parseWithAddresses type (some provider) octets recipient = .error fault ↔
        parseAs type octets recipient = .error fault ∨
          ∃ parsed before output after cause, parseAs type octets recipient = .ok parsed ∧
            parsed.body.outputs? = some (before ++ output :: after) ∧
            (∀ earlier ∈ before, provider.Knows earlier) ∧
            provider output.currency output.script = .error cause ∧ fault = .lookup cause := by
  refine ⟨parseWithAddresses_none htype, fun provider => ⟨?_, fun enriched h => ?_, fun fault => ?_⟩⟩
  · simp only [parseWithAddresses_eq_ok_iff htype, ← AddressProvider.exists_mapM_enrich_iff,
      AddressProvider.mapM_enrich_eq_ok_iff]
    constructor
    · rintro ⟨_, parsed, outputs, answered, hparse, houtputs, hanswered, _⟩
      exact ⟨parsed, outputs, hparse, houtputs, answered, hanswered⟩
    · rintro ⟨parsed, outputs, hparse, houtputs, answered, hanswered⟩
      exact ⟨_, parsed, outputs, answered, hparse, houtputs, hanswered, rfl⟩
  · obtain ⟨parsed, outputs, answered, hparse, houtputs, hanswered, rfl⟩ :=
      (parseWithAddresses_eq_ok_iff htype).mp h
    have hbare : (parsed.body.withOutputs answered).bare = parsed.body :=
      (MessageBody.bare_withOutputs houtputs
        (AddressProvider.map_bare_of_answers hanswered)).trans
          ((MessageBody.bare_eq_self_iff _).mpr (isBare_of_parseAs hparse))
    exact ⟨parsed, outputs, answered, hparse, rfl, hbare, houtputs,
      MessageBody.outputs?_withOutputs houtputs, hanswered⟩
  · rw [parseWithAddresses_eq_error_iff htype]
    refine or_congr_right ?_
    simp only [AddressProvider.mapM_enrich_eq_error_iff]
    constructor
    · rintro ⟨parsed, _, hparse, houtputs, before, output, after, cause, rfl, hrefused⟩
      exact ⟨parsed, before, output, after, cause, hparse, houtputs, hrefused⟩
    · rintro ⟨parsed, before, output, after, cause, hparse, houtputs, hrefused⟩
      exact ⟨parsed, _, hparse, houtputs, before, output, after, cause, rfl, hrefused⟩

/-- An invoice request of two outputs. -/
def twoAddressInvoice : MessageBody :=
  .invoiceRequest { InvoiceRequest.blank with
    originatorsAddresses := [⟨1, "a", .bitcoin, none⟩, ⟨2, "b", .litecoin, none⟩] }

/-- An answer that names the address and knows no more. -/
def addressNamed (script : String) : AddressInformation :=
  ⟨script, false, ⟨0⟩, none, [], "", "", 0, "", "", "", "", "", "", "", ""⟩

/-- Who knows about every address, or about those of one currency. -/
def knowing (only : Option Currency) : AddressProvider := fun currency script =>
  if only = none ∨ only = some currency then .ok (addressNamed script)
  else .error (.unauthorized script)

/-- The invoice request read with answers for both outputs, with an answer for the first only, and
without a provider. -/
theorem twoAddressInvoice_answered :
    (∃ enriched, parseWithAddresses .invoiceRequest (some (knowing none))
        (plainOctets ⟨0⟩ twoAddressInvoice sampleSettings) none = .ok enriched ∧
      enriched.body.bare = twoAddressInvoice ∧
      enriched.body.outputs? = some [⟨1, "a", .bitcoin, some (addressNamed "a")⟩,
        ⟨2, "b", .litecoin, some (addressNamed "b")⟩]) ∧
    parseWithAddresses .invoiceRequest (some (knowing (some .bitcoin)))
      (plainOctets ⟨0⟩ twoAddressInvoice sampleSettings) none =
        .error (.lookup (.unauthorized "b")) ∧
    parseWithAddresses .invoiceRequest none (plainOctets ⟨0⟩ twoAddressInvoice sampleSettings) none =
      .error (.unsupported .noProvider) := by
  have hlen : (plainOctets ⟨0⟩ twoAddressInvoice sampleSettings).length < sizeLimit := by
    decide +kernel
  obtain ⟨metadata, hparse⟩ := exists_parseAs_plainOctets none hlen
  obtain ⟨hwithout, hwith⟩ := parseWithAddresses_adds_answers (.inl rfl)
    (plainOctets ⟨0⟩ twoAddressInvoice sampleSettings) none
  refine ⟨?_, ?_, hwithout⟩
  · obtain ⟨hsucceeds, hadds, _⟩ := hwith (knowing none)
    obtain ⟨enriched, henriched⟩ := hsucceeds.mpr ⟨_, _, hparse, rfl, fun output _ => ⟨_, rfl⟩⟩
    obtain ⟨parsed, outputs, answered, hparsed, _, hbare, houtputs, hanswered, hanswers⟩ :=
      hadds enriched henriched
    cases hparse.symm.trans hparsed
    cases houtputs
    obtain _ | ⟨⟨_, ha, rfl⟩, _ | ⟨⟨_, hb, rfl⟩, _ | _⟩⟩ := hanswers
    cases ha
    cases hb
    exact ⟨enriched, henriched, hbare, hanswered⟩
  · obtain ⟨_, _, hrefuses⟩ := hwith (knowing (some .bitcoin))
    exact (hrefuses _).mpr (.inr ⟨_, [_], _, [], .unauthorized "b", hparse, rfl,
      List.forall_mem_singleton.mpr ⟨_, rfl⟩, rfl, rfl⟩)

end AttestedPayments
