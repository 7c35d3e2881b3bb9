import AttestedPayments.Exchange.Reading
import AttestedPayments.Proofs.Envelope.RoundTrip

/-!
# Another status changes nothing else

* `Envelope.opened` — what opening makes of an envelope that was read.
* `Envelope.opened_withStatus` — it is the same for an envelope with another status, apart from the
  status in the metadata. The signature of an encrypted envelope does not cover the status, and the
  envelope inside keeps its own.
* `changeStatus_eq_ok_iff` — the octets with another status are those of the envelope with it.

Principal result: `changeStatus_changes_status`.
-/

set_option autoImplicit false

namespace AttestedPayments

open Codec (sizeLimit)

/-- The metadata with another status. -/
def Metadata.withStatus (code : StatusCode) (message : String) (m : Metadata) : Metadata :=
  { m with statusCode := code, statusMessage := message }

/-- An opened message with another status in its metadata. -/
def OpenedMessage.withStatus (code : StatusCode) (message : String) (o : OpenedMessage) :
    OpenedMessage :=
  { o with metadata := o.metadata.withStatus code message }

variable {octets after : Bytes} {code : StatusCode} {message : String}

namespace Envelope

/-! ## Envelopes that were read -/

/-- Envelopes are read alike for every expected kind; that goes into faults only. -/
theorem decode_of_decode {expected : MessageType} {e : Envelope} (other : MessageType)
    (h : decode expected octets = .ok e) : decode other octets = .ok e := by
  unfold decode at h ⊢
  split at h
  · cases h
  · exact h

/-- What opening makes of an envelope that was read. -/
def opened (expected : MessageType) (reader : Option EncryptionKeys) :
    Envelope → Except Fault OpenedMessage
  | plain e => do
    let body ← e.body
    .ok ⟨body, e.metadata⟩
  | encrypted e => do
    let inner ← e.decrypt expected reader
    let body ← inner.body
    .ok ⟨body, { e.metadata with version := inner.version, messageType := inner.messageType }⟩

theorem openExpecting_of_decode {expected : MessageType} {e : Envelope}
    (h : decode expected octets = .ok e) (reader : Option EncryptionKeys) :
    openExpecting octets expected reader = e.opened expected reader := by
  rw [openExpecting, h]
  cases e <;> rfl

theorem metadata_withStatus (e : Envelope) :
    (e.withStatus code message).metadata = e.metadata.withStatus code message := by
  cases e <;> rfl

theorem withStatus_withStatus (e : Envelope) (code' : StatusCode) (message' : String) :
    (e.withStatus code message).withStatus code' message' = e.withStatus code' message' := by
  cases e <;> rfl

/-- The status that an envelope has anyway. -/
theorem withStatus_self (e : Envelope) :
    e.withStatus e.metadata.statusCode e.metadata.statusMessage = e := by
  cases e <;> rfl

/-- **Opening an envelope with another status** gives the same with another status, or the same
fault. -/
theorem opened_withStatus (expected : MessageType) (reader : Option EncryptionKeys) (e : Envelope) :
    (e.withStatus code message).opened expected reader =
      (e.opened expected reader).map (OpenedMessage.withStatus code message) := by
  cases e with
  | plain e =>
    have hbody : ({ e with statusCode := code, statusMessage := message } : PlainEnvelope).body =
        e.body := rfl
    simp only [withStatus, opened, hbody]
    cases e.body <;> rfl
  | encrypted e =>
    -- neither the signature nor the envelope inside has the outer status in it
    have hdecrypt : ({ e with statusCode := code, statusMessage := message } :
        EncryptedEnvelope).decrypt expected reader = e.decrypt expected reader := rfl
    simp only [withStatus, opened, hdecrypt]
    cases e.decrypt expected reader with
    | error fault => rfl
    | ok inner =>
      show (inner.body >>= _) = Except.map _ (inner.body >>= _)
      cases inner.body <;> rfl

end Envelope

/-! ## Octets -/

/-- The octets with another status are those of the envelope with it. -/
theorem changeStatus_eq_ok_iff : changeStatus octets code message = .ok after ↔
    ∃ e, Envelope.decode .unknown octets = .ok e ∧ (e.withStatus code message).encode = after := by
  rw [changeStatus, bind_eq_ok_iff]
  simp only [Except.ok.injEq]

/-- The status of octets is changed, and their metadata is read, if they are an envelope; otherwise
both end in the same fault. -/
theorem changeStatus_eq_error_iff {fault : Fault} :
    changeStatus octets code message = .error fault ↔ readMetadata octets = .error fault := by
  rw [changeStatus, readMetadata]
  cases Envelope.decode .unknown octets with
  | error found => exact ⟨fun h => by cases h; rfl, fun h => by cases h; rfl⟩
  | ok e => exact ⟨nofun, nofun⟩

section

-- octets that were read as an envelope, which is written with another status
variable {e : Envelope} (h : Envelope.decode .unknown octets = .ok e)
  (hlen : (e.withStatus code message).encode.length < sizeLimit)

include h hlen

theorem openExpecting_withStatus (expected : MessageType) (reader : Option EncryptionKeys) :
    openExpecting (e.withStatus code message).encode expected reader =
      (openExpecting octets expected reader).map (OpenedMessage.withStatus code message) := by
  rw [Envelope.openExpecting_of_decode (Envelope.decode_of_decode expected h) reader,
    Envelope.openExpecting_of_decode (Envelope.decode_encode expected _ hlen) reader,
    Envelope.opened_withStatus]

theorem openKind_withStatus (expected : MessageType) (reader : Option EncryptionKeys) :
    openKind (e.withStatus code message).encode expected reader =
      (openKind octets expected reader).map (OpenedMessage.withStatus code message) := by
  rw [openKind, openKind, openExpecting_withStatus h hlen]
  cases openExpecting octets expected reader with
  | error fault => rfl
  | ok opened =>
    show (if opened.body.messageType = expected then _ else _) =
      Except.map _ (if opened.body.messageType = expected then _ else _)
    split <;> rfl

theorem isValid_withStatus (chains : List Chain) (clock : Clock) (reader : Option Recipient) :
    isValid chains clock (e.withStatus code message).encode reader =
      isValid chains clock octets reader := by
  rw [isValid, isValid, parse, parse, openMessage, openMessage, openExpecting_withStatus h hlen]
  cases openExpecting octets .unknown (recipientKeys reader) <;> rfl

theorem isValidAs_withStatus (type : MessageType) (chains : List Chain) (clock : Clock)
    (reader : Option Recipient) :
    isValidAs type chains clock (e.withStatus code message).encode reader =
      isValidAs type chains clock octets reader := by
  rw [isValidAs, isValidAs, parseAs, parseAs, openKind_withStatus h hlen]
  cases openKind octets type (recipientKeys reader) <;> rfl

theorem readMetadata_withStatus :
    readMetadata (e.withStatus code message).encode =
      (readMetadata octets).map (Metadata.withStatus code message) := by
  rw [readMetadata, readMetadata, h, Envelope.decode_encode _ _ hlen]
  exact congrArg Except.ok e.metadata_withStatus

theorem changeStatus_withStatus (code' : StatusCode) (message' : String) :
    changeStatus (e.withStatus code message).encode code' message' =
      changeStatus octets code' message' := by
  rw [changeStatus, changeStatus, h, Envelope.decode_encode _ _ hlen]
  exact congrArg (Except.ok ·.encode) (e.withStatus_withStatus code' message')

end

/-- **Another status changes nothing else.** It can be set exactly if the metadata can be read. Then
whoever opens the octets finds the same with that status, or the same fault; they are valid as before;
a later status replaces it; and with the status that they have the octets stay as they are. -/
theorem changeStatus_changes_status (octets : Bytes) (code : StatusCode) (message : String) :
    ((∃ after, changeStatus octets code message = .ok after) ↔
      ∃ metadata, readMetadata octets = .ok metadata) ∧
    (∀ fault, changeStatus octets code message = .error fault ↔
      readMetadata octets = .error fault) ∧
    (∀ after, changeStatus octets code message = .ok after → after.length < sizeLimit →
      readMetadata after = (readMetadata octets).map (Metadata.withStatus code message) ∧
      (∀ reader, openMessage after reader =
        (openMessage octets reader).map (OpenedMessage.withStatus code message)) ∧
      (∀ expected reader, openKind after expected reader =
        (openKind octets expected reader).map (OpenedMessage.withStatus code message)) ∧
      (∀ chains clock reader, isValid chains clock after reader =
        isValid chains clock octets reader) ∧
      (∀ type chains clock reader, isValidAs type chains clock after reader =
        isValidAs type chains clock octets reader) ∧
      ∀ code' message', changeStatus after code' message' =
        changeStatus octets code' message') ∧
    ∀ metadata, readMetadata octets = .ok metadata →
      changeStatus octets metadata.statusCode metadata.statusMessage = .ok octets := by
  refine ⟨?_, fun _ => changeStatus_eq_error_iff, fun after h hlen => ?_, fun metadata h => ?_⟩
  · constructor
    · rintro ⟨after, h⟩
      obtain ⟨e, he, _⟩ := changeStatus_eq_ok_iff.mp h
      exact ⟨_, bind_eq_ok_iff.mpr ⟨e, he, rfl⟩⟩
    · rintro ⟨metadata, h⟩
      obtain ⟨e, he, _⟩ := bind_eq_ok_iff.mp h
      exact ⟨_, changeStatus_eq_ok_iff.mpr ⟨e, he, rfl⟩⟩
  · obtain ⟨e, he, rfl⟩ := changeStatus_eq_ok_iff.mp h
    exact ⟨readMetadata_withStatus he hlen, openExpecting_withStatus he hlen .unknown,
      openKind_withStatus he hlen, isValid_withStatus he hlen,
      fun type => isValidAs_withStatus he hlen type, changeStatus_withStatus he hlen⟩
  · obtain ⟨e, he, hmetadata⟩ := bind_eq_ok_iff.mp h
    cases hmetadata
    refine changeStatus_eq_ok_iff.mpr ⟨e, he, ?_⟩
    rw [e.withStatus_self]
    exact Envelope.of_decode_eq_ok he

/-- A message that is not longer makes no longer envelope. -/
theorem EncryptedEnvelope.length_withStatus_le (e : EncryptedEnvelope) (code : StatusCode)
    {message : String} (h : (Utf8.encode message).length ≤ (Utf8.encode e.statusMessage).length) :
    ((Envelope.encrypted e).withStatus code message).encode.length ≤
      (Envelope.encrypted e).encode.length := by
  rw [Envelope.withStatus, length_encode, length_encode]
  exact Nat.add_le_add_left h _

/-- The recipient of a sealed payment answers that it is cancelled, and reads it as before. -/
theorem signedPayment_cancelled : ∃ after metadata,
    changeStatus (Envelope.encrypted signedPayment).encode .cancel "NO" = .ok after ∧
      openKind after .payment (some (sampleKeys recipientSecret)) =
        .ok ⟨originatorPayment, metadata⟩ ∧
      metadata.statusCode = .cancel ∧ metadata.statusMessage = "NO" ∧ metadata.version = 1 ∧
      (∀ chains clock reader, isValid chains clock after reader =
        isValid chains clock (Envelope.encrypted signedPayment).encode reader) ∧
      changeStatus after .ok "OK" = .ok (Envelope.encrypted signedPayment).encode := by
  have hdecode := Envelope.decode_encode .unknown _ length_signedPayment
  have hcancelled : changeStatus (Envelope.encrypted signedPayment).encode .cancel "NO" =
      .ok ((Envelope.encrypted signedPayment).withStatus .cancel "NO").encode :=
    changeStatus_eq_ok_iff.mpr ⟨_, hdecode, rfl⟩
  have hlen := Nat.lt_of_le_of_lt
    (signedPayment.length_withStatus_le .cancel (show (Utf8.encode "NO").length ≤ _ from le_rfl))
    length_signedPayment
  obtain ⟨_, _, hchanged, hself⟩ :=
    changeStatus_changes_status (Envelope.encrypted signedPayment).encode .cancel "NO"
  obtain ⟨_, _, hopen, hvalid, _, hagain⟩ := hchanged _ hcancelled hlen
  obtain ⟨metadata, hbefore, hdescribes, _⟩ := openKind_enclosed (some (sampleKeys recipientSecret))
    enclose_signedPayment length_signedPayment (by
      rintro _ _ ⟨⟩ ⟨⟩
      exact ⟨sampleKeys_reach, signatureFound_signedPayment⟩)
  refine ⟨_, metadata.withStatus .cancel "NO", hcancelled, ?_, rfl, rfl, hdescribes.version_eq,
    hvalid, ?_⟩
  · have hafter := hopen .payment (some (sampleKeys recipientSecret))
    rw [show openKind _ .payment _ = _ from hbefore] at hafter
    exact hafter
  · rw [hagain]
    exact hself signedPayment.metadata (bind_eq_ok_iff.mpr ⟨_, hdecode, rfl⟩)

end AttestedPayments
