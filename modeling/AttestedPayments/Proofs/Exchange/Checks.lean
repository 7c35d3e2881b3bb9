import AttestedPayments.Exchange.Reading
import AttestedPayments.Proofs.Message.Signatures
import AttestedPayments.Proofs.Results
import AttestedPayments.Proofs.Rsa.Signatures
import AttestedPayments.Proofs.Text.Hex

/-!
# What a body must hold to be accepted

* `checkSenderSignature_eq_ok_iff`, `checkEvCertificate_eq_ok_iff`, `checkSender_eq_ok_iff` — the
  sender.
* `checkEntry_eq_ok_iff`, `checkAttestations_eq_ok_iff` — the owners.
* `verifiesText_lower`, `verifiesText_sign`, `digest_eq_of_verifiesText` — signatures of texts.
* `isValid_eq_ok_iff`, `isValidAs_eq_ok_iff`, `isValidAs_eq_error_iff` — the answers to a message.
-/

set_option autoImplicit false

namespace AttestedPayments

variable {chains : List Chain} {clock : Clock}

/-! ## Signatures of texts -/

/-- A signature fits a text if its octets fit the octets of the text. -/
theorem verifiesText_iff {key : Rsa.PublicKey} {text signature : String} :
    verifiesText key text signature = true ↔
      ∃ octets, Hex.decodeText signature = .ok octets ∧
        Rsa.verify .sha256 key (Utf8.encode text) octets = true := by
  unfold verifiesText
  cases Hex.decodeText signature with
  | error fault => simp
  | ok octets => simp

/-- **One key and one signature fit the texts of one digest.** -/
theorem digest_eq_of_verifiesText {key : Rsa.PublicKey} {a b signature : String}
    (ha : verifiesText key a signature = true) (hb : verifiesText key b signature = true) :
    Hash.Sha256.digest (Utf8.encode a) = Hash.Sha256.digest (Utf8.encode b) := by
  obtain ⟨octets, hoctets, ha⟩ := verifiesText_iff.mp ha
  obtain ⟨octets', hoctets', hb⟩ := verifiesText_iff.mp hb
  rw [hoctets] at hoctets'
  cases hoctets'
  exact Rsa.digest_eq_of_verify ha hb

/-- Octets that fit those of a text are a signature of the text, written in digits. -/
theorem verifiesText_lower {key : Rsa.PublicKey} {text : String} {octets : Bytes}
    (h : Rsa.verify .sha256 key (Utf8.encode text) octets = true) :
    verifiesText key text (Hex.lower octets) = true :=
  verifiesText_iff.mpr ⟨octets, Hex.decodeText_lower _, h⟩

/-- A text that was signed with the private half of a key has a signature that fits. -/
theorem verifiesText_sign {key : Rsa.PrivateKey} {publicKey : Rsa.PublicKey}
    (h : key.IsHalfOf publicKey) (text : String) :
    verifiesText publicKey text (Hex.lower (Rsa.sign key (Utf8.encode text))) = true :=
  verifiesText_lower (h.verify_sign _)

/-- A signature in digits is not empty. -/
theorem lower_ne_empty_of_sign? {key : Rsa.PrivateKey} {message octets : Bytes}
    (h : Rsa.sign? key message = some octets) : Hex.lower octets ≠ "" := by
  intro hempty
  exact Rsa.ne_nil_of_sign? h ((Hex.lower_eq_empty_iff _).mp hempty)

/-! ## Senders -/

/-- What the check of a sender's signature comes down to once the certificate is trusted. -/
theorem checkSenderSignature_of_trusted (body : MessageBody) {sender : SenderIdentity}
    {key : Rsa.PublicKey} (htrusted : validate chains clock sender.certificatePem = .ok true)
    (hsigned : sender.signature ≠ "") (hkey : rsaKeyOfPem sender.certificatePem = .ok key) :
    checkSenderSignature chains clock body sender =
      if verifiesText key body.senderDigest sender.signature then .ok ()
      else .error (.signature .sender) := by
  simp only [checkSenderSignature, htrusted, if_neg hsigned, hkey]
  rfl

theorem checkSenderSignature_eq_ok_iff {body : MessageBody} {sender : SenderIdentity} :
    checkSenderSignature chains clock body sender = .ok () ↔
      validate chains clock sender.certificatePem = .ok true ∧ sender.signature ≠ "" ∧
        ∃ key, rsaKeyOfPem sender.certificatePem = .ok key ∧
          verifiesText key body.senderDigest sender.signature = true := by
  constructor
  · intro h
    unfold checkSenderSignature at h
    split at h
    · cases h
    · cases h
    rename_i htrusted
    split at h
    · cases h
    rename_i hsigned
    obtain ⟨key, hkey, h⟩ := bind_eq_ok_iff.mp h
    split at h
    · rename_i hverifies
      exact ⟨htrusted, hsigned, key, hkey, hverifies⟩
    · cases h
  · rintro ⟨htrusted, hsigned, key, hkey, hverifies⟩
    rw [checkSenderSignature_of_trusted body htrusted hsigned hkey, if_pos hverifies]

/-- **The signature of a trusted sender fits**, if it was made with the private half of the key in
the certificate. -/
theorem checkSenderSignature_of_signed {body : MessageBody} {sender : SenderIdentity}
    {key : Rsa.PrivateKey} {publicKey : Rsa.PublicKey}
    (htrusted : validate chains clock sender.certificatePem = .ok true)
    (hkey : rsaKeyOfPem sender.certificatePem = .ok publicKey) (hhalf : key.IsHalfOf publicKey)
    (hsignature : sender.signature = Hex.lower (Rsa.sign key (Utf8.encode body.senderDigest))) :
    checkSenderSignature chains clock body sender = .ok () := by
  refine checkSenderSignature_eq_ok_iff.mpr ⟨htrusted, ?_, publicKey, hkey, ?_⟩
  · rw [hsignature]
    exact lower_ne_empty_of_sign? (hhalf.canSign.sign?_eq _)
  · rw [hsignature]
    exact verifiesText_sign hhalf _

theorem checkEvCertificate_eq_ok_iff {pem : String} :
    checkEvCertificate chains clock pem = .ok () ↔
      validate chains clock pem = .ok true ∧ isExtendedValidationPem pem = .ok true := by
  constructor
  · intro h
    unfold checkEvCertificate at h
    split at h
    · cases h
    · cases h
    rename_i htrusted
    obtain ⟨extended, hextended, h⟩ := bind_eq_ok_iff.mp h
    cases extended with
    | false => cases h
    | true => exact ⟨htrusted, hextended⟩
  · rintro ⟨htrusted, hextended⟩
    simp only [checkEvCertificate, htrusted, hextended]
    rfl

/-- The signature of a sender is checked first, then the certificate of extended validation. -/
theorem checkSender_of_sender? {body : MessageBody} {sender : SenderIdentity}
    (h : body.sender? = some sender) :
    checkSender chains clock body = (do
      (if sender.scheme.isSigned then checkSenderSignature chains clock body sender else .ok ())
      (if sender.evCertificatePem ≠ "" then
        checkEvCertificate chains clock sender.evCertificatePem else .ok ())) := by
  simp only [checkSender, h]
  cases sender.scheme.isSigned <;> rfl

theorem checkSender_eq_ok_iff {body : MessageBody} :
    checkSender chains clock body = .ok () ↔
      ∀ sender, body.sender? = some sender →
        (sender.scheme.isSigned = true →
          checkSenderSignature chains clock body sender = .ok ()) ∧
        (sender.evCertificatePem ≠ "" →
          checkEvCertificate chains clock sender.evCertificatePem = .ok ()) := by
  cases hs : body.sender? with
  | none =>
    simp only [checkSender, hs]
    exact ⟨fun _ _ h => (nomatch h), fun _ => trivial⟩
  | some sender =>
    rw [checkSender_of_sender? hs, bind_unit_eq_ok_iff, ite_eq_ok_iff, ite_eq_ok_iff]
    constructor
    · intro h other hother
      cases hother
      exact h
    · intro h
      exact h sender rfl

/-! ## Owners -/

theorem checkEntry_eq_ok_iff {digest : String} {isPrimary : Bool} {entry : OwnerEntry} :
    checkEntry chains clock digest isPrimary entry = .ok () ↔
      validate chains clock entry.certificatePem = .ok true ∧
        (isPrimary = true → entry.signature ≠ "" ∧
          ∃ key, rsaKeyOfPem entry.certificatePem = .ok key ∧
            verifiesText key digest entry.signature = true) := by
  constructor
  · intro h
    unfold checkEntry at h
    split at h
    · cases h
    · cases h
    rename_i htrusted
    refine ⟨htrusted, fun hprimary => ?_⟩
    rw [hprimary] at h
    simp only [Bool.not_true, Bool.false_eq_true, if_false] at h
    split at h
    · cases h
    rename_i hsigned
    obtain ⟨key, hkey, h⟩ := bind_eq_ok_iff.mp h
    split at h
    · rename_i hverifies
      exact ⟨hsigned, key, hkey, hverifies⟩
    · cases h
  · rintro ⟨htrusted, h⟩
    simp only [checkEntry, htrusted]
    cases isPrimary with
    | false => rfl
    | true =>
      obtain ⟨hsigned, key, hkey, hverifies⟩ := h rfl
      simp only [Bool.not_true, Bool.false_eq_true, if_false, if_neg hsigned, hkey]
      exact if_pos hverifies

theorem checkOwner_eq_ok_iff {digest : String} {owner : Owner} :
    checkOwner chains clock digest owner = .ok () ↔
      ∀ entry ∈ owner.entries, entry.scheme.isSigned = true →
        checkEntry chains clock digest owner.isPrimary entry = .ok () := by
  rw [checkOwner, forM_eq_ok_iff]
  simp only [List.mem_filter, and_imp]

theorem checkAttestations_eq_ok_iff {body : MessageBody} :
    checkAttestations chains clock body = .ok () ↔
      ∀ role owners, body.owners? role = some owners → ∀ owner ∈ owners,
        ∀ entry ∈ owner.entries, entry.scheme.isSigned = true →
          checkEntry chains clock body.attestationDigest owner.isPrimary entry = .ok () := by
  simp only [checkAttestations, forM_eq_ok_iff, Prod.forall, MessageBody.mem_ownerLists,
    checkOwner_eq_ok_iff]

theorem checkBody_eq_ok_iff {body : MessageBody} :
    checkBody chains clock body = .ok () ↔
      checkSender chains clock body = .ok () ∧ checkAttestations chains clock body = .ok () :=
  bind_unit_eq_ok_iff

/-! ## Answers -/

variable {octets : Bytes} {recipient : Option Recipient} {type : MessageType} {answer : Bool}
  {fault : Fault}

/-- What is opened and then checked is answered with `true` if it passes, and never with `false`. -/
theorem check_eq_ok_iff {read : Except Fault OpenedMessage} :
    (do
      let opened ← read
      checkBody chains clock opened.body
      .ok true) = .ok answer ↔
      answer = true ∧ ∃ opened, read = .ok opened ∧ checkBody chains clock opened.body = .ok () := by
  simp only [bind_eq_ok_iff, Except.ok.injEq]
  constructor
  · rintro ⟨opened, hread, ⟨⟩, hcheck, rfl⟩
    exact ⟨rfl, opened, hread, hcheck⟩
  · rintro ⟨rfl, opened, hread, hcheck⟩
    exact ⟨opened, hread, (), hcheck, rfl⟩

/-- A fault is that of opening or that of the check. -/
theorem check_eq_error_iff {read : Except Fault OpenedMessage} :
    (do
      let opened ← read
      checkBody chains clock opened.body
      .ok true) = (.error fault : Except Fault Bool) ↔
      read = .error fault ∨
        ∃ opened, read = .ok opened ∧ checkBody chains clock opened.body = .error fault := by
  simp only [bind_eq_error_iff, reduceCtorEq, and_false, exists_false, or_false]

theorem isValid_eq_ok_iff : isValid chains clock octets recipient = .ok answer ↔
    answer = true ∧ ∃ opened, parse octets recipient = .ok opened ∧
      checkBody chains clock opened.body = .ok () :=
  check_eq_ok_iff

theorem isValidAs_eq_ok_iff : isValidAs type chains clock octets recipient = .ok answer ↔
    answer = true ∧ ∃ opened, parseAs type octets recipient = .ok opened ∧
      checkBody chains clock opened.body = .ok () :=
  check_eq_ok_iff

theorem isValidAs_eq_error_iff : isValidAs type chains clock octets recipient = .error fault ↔
    parseAs type octets recipient = .error fault ∨
      ∃ opened, parseAs type octets recipient = .ok opened ∧
        checkBody chains clock opened.body = .error fault :=
  check_eq_error_iff

end AttestedPayments
