import AttestedPayments.Proofs.Exchange.Checks
import AttestedPayments.Proofs.Trust.Paths

/-!
# What a signature binds

* `Collision` — two different messages with one digest.
* `eq_or_collision_of_verifiesText` — a signature under one key that fits the digests of two messages
  shows that they are the same, or shows a collision.
* `MessageBody.PrimaryEntry` — an entry that its owner has to sign.

Principal results: `sender_signature_binds` — a body that differs anywhere from an accepted one, but
carries the same certificate and the same signature of the sender, is refused, unless the two show a
collision; `owner_signature_binds` — two accepted bodies in which primary owners give the same signature
under the same certificate are the same but for signatures, unless they show a collision.
-/

set_option autoImplicit false

namespace AttestedPayments

open Codec (sizeLimit)

/-- Two different messages with one digest. -/
def Collision (a b : Bytes) : Prop := a ≠ b ∧ Hash.Sha256.digest a = Hash.Sha256.digest b

theorem eq_or_collision {a b : Bytes} (h : Hash.Sha256.digest a = Hash.Sha256.digest b) :
    a = b ∨ Collision a b := by
  by_cases hab : a = b
  · exact Or.inl hab
  · exact Or.inr ⟨hab, h⟩

/-- A signature covers the text of a digest, so there are two digests in which messages can
collide. -/
theorem eq_or_collision_of_verifiesText {key : Rsa.PublicKey} {a b : Bytes} {signature : String}
    (ha : verifiesText key (sha256Text a) signature = true)
    (hb : verifiesText key (sha256Text b) signature = true) :
    a = b ∨ Collision a b ∨
      Collision (Utf8.encode (sha256Text a)) (Utf8.encode (sha256Text b)) := by
  rcases eq_or_collision (digest_eq_of_verifiesText ha hb) with htext | hcollision
  · have hdigest := Hex.lower_injective (Utf8.encode_injective htext)
    rcases eq_or_collision hdigest with heq | hcollision
    · exact Or.inl heq
    · exact Or.inr (Or.inl hcollision)
  · exact Or.inr (Or.inr hcollision)

/-- Two bodies of one kind whose senders give the same signed identity. -/
structure SameSigner (a b : MessageBody) (s t : SenderIdentity) : Prop where
  messageType_eq : a.messageType = b.messageType
  left : a.sender? = some s
  right : b.sender? = some t
  signed : s.scheme = .x509Sha256
  scheme_eq : t.scheme = s.scheme
  certificatePem_eq : t.certificatePem = s.certificatePem
  signature_eq : t.signature = s.signature

/-- Bodies of one kind have different writings exactly if they differ in what travels. -/
theorem MessageBody.encode_ne_iff {a b : MessageBody} (ht : a.messageType = b.messageType)
    (hlen : a.encode.length < sizeLimit) : a.encode ≠ b.encode ↔ a.bare ≠ b.bare := by
  refine not_congr ⟨MessageBody.eq_of_encode_eq ht hlen, fun h => ?_⟩
  rw [← a.encode_bare, h, b.encode_bare]

/-- **A sender's signature binds the whole body.** Two bodies with the same sender certificate and
sender signature differ in what travels, in any field at all. If the first one is accepted then the
signature of the second one is refused, or there is a collision: of the writings without sender
signature, or of the two digests that are signed as text. -/
theorem sender_signature_binds {chains : List Chain} {clock : Clock} {a b : MessageBody}
    {s t : SenderIdentity} (hsame : SameSigner a b s t) (hlen : a.encode.length < sizeLimit)
    (haccepted : checkSender chains clock a = .ok ()) :
    (a.encode ≠ b.encode ↔ a.bare ≠ b.bare) ∧
      (a.encode ≠ b.encode →
        checkSender chains clock b = .error (.signature .sender) ∨
          Collision (a.withSenderSignature "").encode (b.withSenderSignature "").encode ∨
          Collision (Utf8.encode a.senderDigest) (Utf8.encode b.senderDigest)) := by
  have hiff := MessageBody.encode_ne_iff hsame.messageType_eq hlen
  refine ⟨hiff, fun hne => ?_⟩
  -- the writings differ even without the signatures, which are the same
  have hblank : (a.withSenderSignature "").encode ≠ (b.withSenderSignature "").encode := by
    intro heq
    have hlen' := Nat.lt_of_le_of_lt a.length_encode_blank_le hlen
    have htype : (a.withSenderSignature "").messageType =
        (b.withSenderSignature "").messageType := by
      rw [MessageBody.messageType_withSenderSignature, hsame.messageType_eq,
        MessageBody.messageType_withSenderSignature]
    have hbare := MessageBody.eq_of_encode_eq htype hlen' heq
    exact hiff.mp hne
      (MessageBody.bare_eq_of_blank hsame.left hsame.right hsame.signature_eq.symm hbare)
  have hscheme : t.scheme.isSigned = true := by
    rw [hsame.scheme_eq, hsame.signed]
    rfl
  obtain ⟨htrusted, hsigned, key, hkey, ha⟩ := checkSenderSignature_eq_ok_iff.mp
    ((checkSender_eq_ok_iff.mp haccepted s hsame.left).1 (by rw [hsame.signed]; rfl))
  rw [← hsame.certificatePem_eq] at htrusted hkey
  rw [← hsame.signature_eq] at hsigned ha
  have hcheck := checkSenderSignature_of_trusted b htrusted hsigned hkey
  by_cases hb : verifiesText key b.senderDigest t.signature = true
  · exact Or.inr ((eq_or_collision_of_verifiesText ha hb).resolve_left hblank)
  · left
    rw [checkSender_of_sender? hsame.right, if_pos hscheme, hcheck, if_neg hb]
    rfl

/-- A sender who holds the sample certificate is accepted with its signature. -/
theorem checkSender_of_sample {body : MessageBody} {signature : String}
    (hsender : body.sender? = some ⟨.x509Sha256, sampleClient.toPem, signature, ""⟩)
    (hsignature : signature = Hex.lower (Rsa.sign sampleKey (Utf8.encode body.senderDigest))) :
    checkSender [sampleChain] ⟨0⟩ body = .ok () := by
  refine checkSender_eq_ok_iff.mpr fun sender h => ?_
  obtain rfl := Option.some.inj (hsender.symm.trans h)
  refine ⟨fun _ => ?_, fun h => absurd rfl h⟩
  exact checkSenderSignature_of_signed validate_sampleClient rsaKeyOfPem_sampleClient
    sampleKey_isHalfOf hsignature

/-- An invoice request with a memo, from the holder of the sample certificate. -/
def sampleInvoice (memo signature : String) : MessageBody :=
  .invoiceRequest { InvoiceRequest.blank with
    memo := memo
    sender := ⟨.x509Sha256, sampleClient.toPem, signature, ""⟩ }

/-- The signature of the sample sender under an invoice request. -/
def sampleSignature : String :=
  Hex.lower (Rsa.sign sampleKey (Utf8.encode (sampleInvoice "ten" "").senderDigest))

theorem length_sampleInvoice :
    (sampleInvoice "ten" sampleSignature).encode.length < sizeLimit := by
  have hsignature : (Utf8.encode sampleSignature).length = 162 := length_lower_sampleKey _
  simp only [sampleInvoice, MessageBody.encode, Wire.invoiceRequest, Wire.sender, Codec.via,
    Codec.pair, Codec.text, List.length_append, Codec.length_count, length_toPem_sampleClient,
    hsignature]
  decide +kernel

theorem checkSender_sampleInvoice :
    checkSender [sampleChain] ⟨0⟩ (sampleInvoice "ten" sampleSignature) = .ok () := by
  refine checkSender_of_sample rfl ?_
  rw [sampleSignature]
  exact congrArg (fun digest => Hex.lower (Rsa.sign sampleKey (Utf8.encode digest)))
    ((sampleInvoice "ten" "").senderDigest_withSenderSignature sampleSignature).symm

theorem sampleInvoice_eleven_refused :
    SameSigner (sampleInvoice "ten" sampleSignature) (sampleInvoice "eleven" sampleSignature)
        ⟨.x509Sha256, sampleClient.toPem, sampleSignature, ""⟩
        ⟨.x509Sha256, sampleClient.toPem, sampleSignature, ""⟩ ∧
      (sampleInvoice "ten" sampleSignature).encode.length < sizeLimit ∧
      checkSender [sampleChain] ⟨0⟩ (sampleInvoice "ten" sampleSignature) = .ok () ∧
      (sampleInvoice "ten" sampleSignature).encode ≠
        (sampleInvoice "eleven" sampleSignature).encode ∧
      (checkSender [sampleChain] ⟨0⟩ (sampleInvoice "eleven" sampleSignature) =
          .error (.signature .sender) ∨
        Collision ((sampleInvoice "ten" sampleSignature).withSenderSignature "").encode
          ((sampleInvoice "eleven" sampleSignature).withSenderSignature "").encode ∨
        Collision (Utf8.encode (sampleInvoice "ten" sampleSignature).senderDigest)
          (Utf8.encode (sampleInvoice "eleven" sampleSignature).senderDigest)) := by
  have hsame : SameSigner (sampleInvoice "ten" sampleSignature)
      (sampleInvoice "eleven" sampleSignature) _ _ := ⟨rfl, rfl, rfl, rfl, rfl, rfl, rfl⟩
  have hbare : (sampleInvoice "ten" sampleSignature).bare ≠
      (sampleInvoice "eleven" sampleSignature).bare := by
    intro h
    have hmemo := congrArg InvoiceRequest.memo (MessageBody.invoiceRequest.inj h)
    revert hmemo
    decide
  have hbinds := sender_signature_binds hsame length_sampleInvoice checkSender_sampleInvoice
  have hne := hbinds.1.mpr hbare
  exact ⟨hsame, length_sampleInvoice, checkSender_sampleInvoice, hne, hbinds.2 hne⟩

/-! ## Owners -/

/-- An entry of a primary owner whose scheme has signatures. -/
def MessageBody.PrimaryEntry (body : MessageBody) (entry : OwnerEntry) : Prop :=
  ∃ role owners owner, body.owners? role = some owners ∧ owner ∈ owners ∧
    owner.isPrimary = true ∧ entry ∈ owner.entries ∧ entry.scheme = .x509Sha256

/-- The signature of such an entry of an accepted body fits what owners sign. -/
theorem MessageBody.PrimaryEntry.verifies {chains : List Chain} {clock : Clock} {body : MessageBody}
    {entry : OwnerEntry} (h : body.PrimaryEntry entry)
    (haccepted : checkAttestations chains clock body = .ok ()) :
    ∃ key, rsaKeyOfPem entry.certificatePem = .ok key ∧
      verifiesText key body.attestationDigest entry.signature = true := by
  obtain ⟨role, owners, owner, howners, howner, hprimary, hentry, hscheme⟩ := h
  have hsigned : entry.scheme.isSigned = true := by
    rw [hscheme]
    rfl
  have hcheck := checkAttestations_eq_ok_iff.mp haccepted role owners howners owner howner entry
    hentry hsigned
  exact ((checkEntry_eq_ok_iff.mp hcheck).2 hprimary).2

/-- **A primary owner's signature binds the whole body.** Two bodies of one kind are accepted, each by
a reader of its own, and a primary owner of the one gives the same signature under the same
certificate as a primary owner of the other. Then what their owners sign is the same once all signatures
are blank, or there is a collision: of the writings without signatures, or of the two digests that are
signed as text. Of an acknowledgement, owners sign the payment. What is known about addresses does not
travel; bodies without it are the same altogether. -/
theorem owner_signature_binds {chains others : List Chain} {clock other : Clock}
    {a b : MessageBody} {e f : OwnerEntry} (htype : a.messageType = b.messageType)
    (hlen : a.encode.length < sizeLimit) (ha : checkAttestations chains clock a = .ok ())
    (hb : checkAttestations others other b = .ok ()) (he : a.PrimaryEntry e)
    (hf : b.PrimaryEntry f) (hcertificate : e.certificatePem = f.certificatePem)
    (hsignature : e.signature = f.signature) :
    (a.attested.unsigned.bare = b.attested.unsigned.bare ∧
        (a.IsBare → b.IsBare → a.attested.unsigned = b.attested.unsigned)) ∨
      Collision a.attested.unsigned.encode b.attested.unsigned.encode ∨
      Collision (Utf8.encode a.attestationDigest) (Utf8.encode b.attestationDigest) := by
  obtain ⟨key, hkey, hfits⟩ := he.verifies ha
  obtain ⟨key', hkey', hfits'⟩ := hf.verifies hb
  rw [← hcertificate, hkey] at hkey'
  cases hkey'
  rw [← hsignature] at hfits'
  rw [MessageBody.attestationDigest_eq] at hfits hfits' ⊢
  rw [MessageBody.attestationDigest_eq]
  rcases eq_or_collision_of_verifiesText hfits hfits' with heq | hcollision
  · left
    have hkind : a.attested.unsigned.messageType = b.attested.unsigned.messageType := by
      rw [MessageBody.messageType_unsigned, MessageBody.messageType_unsigned,
        MessageBody.messageType_attested, MessageBody.messageType_attested, htype]
    have hbare := MessageBody.eq_of_encode_eq hkind
      (Nat.lt_of_le_of_lt a.length_attested_unsigned_le hlen) heq
    refine ⟨hbare, fun hknown hknown' => ?_⟩
    rw [← MessageBody.unsigned_bare, ← MessageBody.unsigned_bare, ← MessageBody.attested_bare,
      ← MessageBody.attested_bare, (MessageBody.bare_eq_self_iff a).mpr hknown,
      (MessageBody.bare_eq_self_iff b).mpr hknown'] at hbare
    exact hbare
  · exact Or.inr hcollision

/-- A payment with a primary owner, who holds the sample certificate, and another owner. -/
def samplePayment (ofPrimary ofOther : String) : MessageBody :=
  .payment { Payment.blank with
    originators :=
      [⟨true, [⟨.dateOfBirth, sampleClient.toPem, .x509Sha256, ofPrimary⟩]⟩,
        ⟨false, [⟨.dateOfBirth, sampleClient.toPem, .x509Sha256, ofOther⟩]⟩] }

theorem attestationDigest_samplePayment (ofPrimary ofOther : String) :
    (samplePayment ofPrimary ofOther).attestationDigest =
      (samplePayment "" "").attestationDigest := rfl

/-- The signature of the primary owner. -/
def sampleAttestation : String :=
  Hex.lower (Rsa.sign sampleKey (Utf8.encode (samplePayment "" "").attestationDigest))

theorem length_samplePayment : (samplePayment sampleAttestation "").encode.length < sizeLimit := by
  have hsignature : (Utf8.encode sampleAttestation).length = 162 := length_lower_sampleKey _
  simp only [samplePayment, MessageBody.encode, Wire.payment, Wire.owner, Wire.ownerEntry,
    Codec.via, Codec.pair, Codec.list, Codec.text, List.length_append, Codec.length_count,
    List.flatMap_cons, List.flatMap_nil, length_toPem_sampleClient, hsignature]
  decide +kernel

/-- What the other owner puts in as a signature is not looked at. -/
theorem checkAttestations_samplePayment (ofOther : String) :
    checkAttestations [sampleChain] ⟨0⟩ (samplePayment sampleAttestation ofOther) = .ok () := by
  refine checkAttestations_eq_ok_iff.mpr fun role owners howners owner howner entry hentry _ => ?_
  refine checkEntry_eq_ok_iff.mpr ?_
  cases role with
  | beneficiary =>
    cases howners
    cases howner
  | originator =>
    cases howners
    obtain rfl | rfl := List.mem_pair.mp howner
    · obtain rfl := List.mem_singleton.mp hentry
      have hfits : verifiesText sampleKey.toPublic
          (samplePayment sampleAttestation ofOther).attestationDigest sampleAttestation = true := by
        rw [attestationDigest_samplePayment, sampleAttestation]
        exact verifiesText_sign sampleKey_isHalfOf _
      have hsigned : sampleAttestation ≠ "" :=
        lower_ne_empty_of_sign? (sampleKey_isHalfOf.canSign.sign?_eq _)
      exact ⟨validate_sampleClient, fun _ => ⟨hsigned, _, rsaKeyOfPem_sampleClient, hfits⟩⟩
    · obtain rfl := List.mem_singleton.mp hentry
      exact ⟨validate_sampleClient, nofun⟩

theorem samplePayment_bound :
    (samplePayment sampleAttestation "").PrimaryEntry
        ⟨.dateOfBirth, sampleClient.toPem, .x509Sha256, sampleAttestation⟩ ∧
      checkAttestations [sampleChain] ⟨0⟩ (samplePayment sampleAttestation "") = .ok () ∧
      checkAttestations [sampleChain] ⟨0⟩ (samplePayment sampleAttestation "00") = .ok () ∧
      samplePayment sampleAttestation "" ≠ samplePayment sampleAttestation "00" ∧
      (((samplePayment sampleAttestation "").attested.unsigned.bare =
            (samplePayment sampleAttestation "00").attested.unsigned.bare ∧
          ((samplePayment sampleAttestation "").IsBare →
            (samplePayment sampleAttestation "00").IsBare →
              (samplePayment sampleAttestation "").attested.unsigned =
                (samplePayment sampleAttestation "00").attested.unsigned)) ∨
        Collision (samplePayment sampleAttestation "").attested.unsigned.encode
          (samplePayment sampleAttestation "00").attested.unsigned.encode ∨
        Collision (Utf8.encode (samplePayment sampleAttestation "").attestationDigest)
          (Utf8.encode (samplePayment sampleAttestation "00").attestationDigest)) := by
  have hentry : ∀ ofOther, (samplePayment sampleAttestation ofOther).PrimaryEntry
      ⟨.dateOfBirth, sampleClient.toPem, .x509Sha256, sampleAttestation⟩ := fun _ =>
    ⟨.originator, _, _, rfl, List.mem_cons_self, rfl, List.mem_singleton_self _, rfl⟩
  refine ⟨hentry "", checkAttestations_samplePayment "", checkAttestations_samplePayment "00", ?_,
    owner_signature_binds rfl length_samplePayment (checkAttestations_samplePayment "")
      (checkAttestations_samplePayment "00") (hentry "") (hentry "00") rfl rfl⟩
  intro h
  have horiginators := congrArg Payment.originators (MessageBody.payment.inj h)
  simp at horiginators

end AttestedPayments
