import AttestedPayments.Envelope.Basic
import AttestedPayments.Proofs.Wire.Laws

/-!
# The layouts of bodies and envelopes are lawful

* `Output.bare` takes off what is known about an address; `InvoiceRequest.bare` and its siblings do
  so for every output of a body, and `MessageBody.IsBare` says that there is nothing to take off.
* `Wire.lawful_invoiceRequest`, `Wire.lawful_paymentRequest`, `Wire.lawful_payment`,
  `Wire.lawful_paymentAck`, `Wire.lawful_envelope` — each layout follows the law of codecs, where
  the only thing that does not travel is what is known about addresses.
-/

set_option autoImplicit false

namespace AttestedPayments

/-! ## What does not travel -/

def InvoiceRequest.bare (b : InvoiceRequest) : InvoiceRequest :=
  { b with originatorsAddresses := b.originatorsAddresses.map Output.bare }

def PaymentDetails.bare (d : PaymentDetails) : PaymentDetails :=
  { d with beneficiariesAddresses := d.beneficiariesAddresses.map Output.bare }

def PaymentRequest.bare (b : PaymentRequest) : PaymentRequest :=
  { b with details := b.details.bare }

def Payment.bare (b : Payment) : Payment := { b with refundTo := b.refundTo.map Output.bare }

def PaymentAck.bare (b : PaymentAck) : PaymentAck := { b with payment := b.payment.bare }

namespace MessageBody

/-- The body without what is known about its addresses. -/
def bare : MessageBody → MessageBody
  | invoiceRequest b => invoiceRequest b.bare
  | paymentRequest b => paymentRequest b.bare
  | payment b => payment b.bare
  | paymentAck b => paymentAck b.bare

/-- Every output of a body, those for refunds included. -/
def allOutputs : MessageBody → List Output
  | invoiceRequest b => b.originatorsAddresses
  | paymentRequest b => b.details.beneficiariesAddresses
  | payment b => b.refundTo
  | paymentAck b => b.payment.refundTo

/-- Nothing is known about any address of the body. -/
def IsBare (body : MessageBody) : Prop :=
  ∀ output ∈ body.allOutputs, output.addressInformation = none

end MessageBody

theorem Output.bare_eq_self_iff (o : Output) : o.bare = o ↔ o.addressInformation = none := by
  cases o
  simp [Output.bare, eq_comm]

theorem Output.map_bare_eq_self_iff (outputs : List Output) :
    outputs.map Output.bare = outputs ↔ ∀ o ∈ outputs, o.addressInformation = none := by
  induction outputs with
  | nil => simp
  | cons o outputs ih =>
    rw [List.map_cons, List.cons.injEq, ih, Output.bare_eq_self_iff, List.forall_mem_cons]

theorem MessageBody.bare_eq_self_iff (body : MessageBody) : body.bare = body ↔ body.IsBare := by
  unfold IsBare
  rw [← Output.map_bare_eq_self_iff]
  cases body with
  | invoiceRequest b => cases b; simp [bare, InvoiceRequest.bare, allOutputs]
  | paymentRequest b =>
    obtain ⟨_, d, _, _, _⟩ := b
    cases d
    simp [bare, PaymentRequest.bare, PaymentDetails.bare, allOutputs]
  | payment b => cases b; simp [bare, Payment.bare, allOutputs]
  | paymentAck b =>
    obtain ⟨p, _⟩ := b
    cases p
    simp [bare, PaymentAck.bare, Payment.bare, allOutputs]

@[simp] theorem MessageBody.messageType_bare (body : MessageBody) :
    body.bare.messageType = body.messageType := by
  cases body <;> rfl

namespace Wire

open Codec

/-! ## Words of the protocol -/

/-- Words of a table that has one name or number for each of them. -/
theorem lawful_lookup {α β : Type} {c : Codec α} (hc : Lawful c id) {toBase : β → α}
    {find : α → Option β} {ofBase : α → Except WireFault β} (fault : α → WireFault)
    (hof : ∀ a, ofBase a = (find a).elim (.error (fault a)) .ok)
    (hfind : ∀ b, find (toBase b) = some b) (hback : ∀ {a b}, find a = some b → toBase b = a) :
    Lawful (c.refine toBase ofBase) id := by
  refine hc.refine (fun b => ?_) fun a b hb => ?_
  · rw [hof, hfind]
    rfl
  · rw [hof] at hb
    cases hf : find a with
    | none =>
      rw [hf] at hb
      cases hb
    | some b' =>
      rw [hf] at hb
      cases hb
      exact hback hf

theorem lawful_known {α β : Type} {c : Codec α} (hc : Lawful c id) {toBase : β → α}
    {find : α → Option β} {ofBase : α → Except Unknown β} (unknown : α → Unknown)
    (hof : ∀ a, ofBase a = (find a).elim (.error (unknown a)) .ok)
    (hfind : ∀ b, find (toBase b) = some b) (hback : ∀ {a b}, find a = some b → toBase b = a) :
    Lawful (c.refine toBase fun a => known (ofBase a)) id := by
  refine lawful_lookup hc (fun a => .unknown (unknown a)) (fun a => ?_) hfind hback
  rw [hof]
  cases find a <;> rfl

theorem lawful_scheme : Lawful scheme id := by
  refine lawful_known lawful_text .pkiScheme (fun name => ?_) PkiScheme.ofText?_text
    PkiScheme.text_of_ofText?
  unfold PkiScheme.ofText
  cases PkiScheme.ofText? name <;> rfl

theorem lawful_attestation : Lawful attestation id := by
  refine lawful_known lawful_text .attestation (fun name => ?_) Attestation.ofText?_text
    Attestation.text_of_ofText?
  unfold Attestation.ofText
  cases Attestation.ofText? name <;> rfl

theorem lawful_statusCode : Lawful statusCode id := by
  refine lawful_known lawful_uint32 .statusCode (fun code => ?_) StatusCode.ofCode?_code
    StatusCode.code_of_ofCode?
  unfold StatusCode.ofCode
  cases StatusCode.ofCode? code <;> rfl

theorem lawful_messageType : Lawful messageType id := by
  refine lawful_known lawful_uint32 .messageType (fun code => ?_) MessageType.ofCode?_code
    MessageType.code_of_ofCode?
  unfold MessageType.ofCode
  cases MessageType.ofCode? code <;> rfl

theorem lawful_currency : Lawful currency id := by
  refine lawful_lookup lawful_uint32 (fun n => .badVariant n Currency.all.length) (fun n => ?_)
    Currency.ofIndex?_index Currency.index_of_ofIndex?
  cases Currency.ofIndex? n <;> rfl

/-! ## Parts of bodies -/

theorem lawful_ownerEntry : Lawful ownerEntry id :=
  (lawful_attestation.pair (lawful_text.pair (lawful_scheme.pair lawful_text))).via fun _ => rfl

theorem lawful_owner : Lawful owner id :=
  ((lawful_bool.pair lawful_ownerEntry.list).via fun _ => rfl).congr fun o => by
    simp [Prod.map]

theorem lawful_owners : Lawful (list owner) id := lawful_owner.list.congr fun _ => List.map_id _

theorem lawful_attestations : Lawful (list attestation) id :=
  lawful_attestation.list.congr fun _ => List.map_id _

theorem lawful_output : Lawful output Output.bare :=
  (lawful_uint64.pair (lawful_text.pair lawful_currency)).via fun _ => rfl

theorem lawful_sender : Lawful sender id :=
  (lawful_scheme.pair (lawful_text.pair (lawful_text.pair lawful_text))).via fun _ => rfl

/-! ## Bodies -/

theorem lawful_invoiceRequest : Lawful invoiceRequest InvoiceRequest.bare :=
  (lawful_uint64.pair (lawful_text.pair (lawful_text.pair (lawful_owners.pair
    (lawful_owners.pair (lawful_output.list.pair (lawful_attestations.pair
      (lawful_text.pair (lawful_text.pair lawful_sender))))))))).via fun _ => rfl

theorem lawful_paymentDetails : Lawful paymentDetails PaymentDetails.bare :=
  (lawful_text.pair (lawful_output.list.pair (lawful_int64.pair (lawful_int64.pair
    (lawful_text.pair (lawful_text.pair lawful_octets)))))).via fun _ => rfl

theorem lawful_paymentRequest : Lawful paymentRequest PaymentRequest.bare :=
  (lawful_uint32.pair (lawful_paymentDetails.pair (lawful_owners.pair
    (lawful_attestations.pair lawful_sender)))).via fun _ => rfl

theorem lawful_transactions : Lawful (list octets) id :=
  lawful_octets.list.congr fun _ => List.map_id _

theorem lawful_payment : Lawful payment Payment.bare :=
  (lawful_octets.pair (lawful_transactions.pair (lawful_output.list.pair (lawful_text.pair
    (lawful_owners.pair lawful_owners))))).via fun _ => rfl

theorem lawful_paymentAck : Lawful paymentAck PaymentAck.bare :=
  (lawful_payment.pair lawful_text).via fun _ => rfl

/-! ## Envelopes -/

theorem lawful_plainEnvelope : Lawful plainEnvelope id :=
  (lawful_uint32.pair (lawful_statusCode.pair (lawful_text.pair (lawful_messageType.pair
    (lawful_octets.pair lawful_octets))))).via fun _ => rfl

theorem lawful_encryptedEnvelope : Lawful encryptedEnvelope id :=
  (lawful_text.pair (lawful_text.pair (lawful_text.pair (lawful_octets.pair (lawful_octets.pair
    (lawful_statusCode.pair (lawful_text.pair lawful_int64))))))).via fun _ => rfl

/-- The number of its kind in front tells the two envelopes apart. -/
theorem lawful_envelope : Lawful envelope id where
  encode_ne_nil e h := by
    cases e with
    | plain e => exact lawful_uint32.encode_ne_nil 0 (List.append_eq_nil_iff.mp h).1
    | encrypted e => exact lawful_uint32.encode_ne_nil 1 (List.append_eq_nil_iff.mp h).1
  encode_bare _ := rfl
  decode_encode e rest h := by
    cases e with
    | plain e =>
      simp only [envelope, List.length_append] at h
      simp only [envelope, List.append_assoc]
      rw [lawful_uint32.decode_encode 0 _ (by omega)]
      simp [lawful_plainEnvelope.decode_encode e rest (by omega)]
    | encrypted e =>
      simp only [envelope, List.length_append] at h
      simp only [envelope, List.append_assoc]
      rw [lawful_uint32.decode_encode 1 _ (by omega)]
      simp [lawful_encryptedEnvelope.decode_encode e rest (by omega)]
  encode_decode octets e rest h := by
    simp only [envelope] at h
    split at h
    · cases h
    rename_i n more hn
    obtain ⟨_, hen⟩ := lawful_uint32.encode_decode _ _ _ hn
    refine ⟨rfl, ?_⟩
    split at h
    · rename_i h0
      split at h
      · cases h
      rename_i e' more' he
      cases h
      obtain ⟨_, hee⟩ := lawful_plainEnvelope.encode_decode _ _ _ he
      show (uint32.encode 0 ++ plainEnvelope.encode e') ++ rest = octets
      rw [List.append_assoc, hee, ← h0, hen]
    · split at h
      · rename_i h1
        split at h
        · cases h
        rename_i e' more' he
        cases h
        obtain ⟨_, hee⟩ := lawful_encryptedEnvelope.encode_decode _ _ _ he
        show (uint32.encode 1 ++ encryptedEnvelope.encode e') ++ rest = octets
        rw [List.append_assoc, hee, ← h1, hen]
      · cases h

end Wire

end AttestedPayments
