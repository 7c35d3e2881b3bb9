import AttestedPayments.Proofs.Exchange.Binding

/-!
# Messages of different kinds

What is signed are octets that do not tell the kind of a body, so a signature cannot keep kinds apart
where their writings do not.

* `MessageBody.Twins` — two bodies of different kinds with one writing.
* `MessageBody.opening` — the number in the first eight octets of a body: an amount, or a version with
  the count of a network's name, or the count of merchant data.
* `Twins.opening_eq` — twins begin with the same number.
* `MessageBody.NamesNetwork` — a payment request whose network has a name that begins with an octet
  other than zero.
* `Twins.not_namesNetwork` — such a request has no twin below four gigabytes.

Principal results: `Twins.looks` — what twins have to look like; `digests_apart` — bodies of different
kinds share what is signed, and signatures, exactly if what is signed are twins or show a collision.
`twins_share_signatures` has such twins.
-/

set_option autoImplicit false

namespace AttestedPayments

open LittleEndian (digits value digits_add value_append value_digits_mod length_digits)

namespace MessageBody

/-! ## How writings begin -/

theorem encode_invoiceRequest (b : InvoiceRequest) :
    ∃ rest, (invoiceRequest b).encode = digits 8 b.amount.toNat ++
      (digits 8 (Utf8.encode b.memo).length ++ (Utf8.encode b.memo ++ rest)) :=
  ⟨_, by
    simp only [encode, Wire.invoiceRequest, Codec.via, Codec.pair, Codec.text, List.append_assoc]
    rfl⟩

theorem encode_paymentRequest (b : PaymentRequest) :
    ∃ rest, (paymentRequest b).encode = digits 4 b.detailsVersion.toNat ++
      (digits 8 (Utf8.encode b.details.network).length ++
        (Utf8.encode b.details.network ++ rest)) :=
  ⟨_, by
    simp only [encode, Wire.paymentRequest, Wire.paymentDetails, Codec.via, Codec.pair, Codec.text,
      List.append_assoc]
    rfl⟩

theorem encode_payment (b : Payment) :
    ∃ rest, (payment b).encode = digits 8 b.merchantData.length ++ (b.merchantData ++ rest) :=
  ⟨_, by
    simp only [encode, Wire.payment, Codec.via, Codec.pair, Codec.octets, List.append_assoc]
    rfl⟩

/-- An acknowledgement begins with its payment. -/
theorem encode_paymentAck (b : PaymentAck) :
    ∃ rest, (paymentAck b).encode = (payment b.payment).encode ++ rest := ⟨_, rfl⟩

/-- The number in the first eight octets. -/
def opening : MessageBody → Nat
  | invoiceRequest b => b.amount.toNat
  | paymentRequest b =>
    b.detailsVersion.toNat + 2 ^ 32 * ((Utf8.encode b.details.network).length % 2 ^ 32)
  | payment b => b.merchantData.length % 2 ^ 64
  | paymentAck b => b.payment.merchantData.length % 2 ^ 64

theorem take_digits_append {width n : Nat} {rest : Bytes} :
    (digits width n ++ rest).take width = digits width n :=
  List.take_left' (length_digits width n)

theorem value_take_encode (body : MessageBody) : value (body.encode.take 8) = body.opening := by
  cases body with
  | invoiceRequest b =>
    obtain ⟨rest, h⟩ := encode_invoiceRequest b
    rw [h, take_digits_append, value_digits_mod]
    exact Nat.mod_eq_of_lt b.amount.toNat_lt
  | paymentRequest b =>
    obtain ⟨rest, h⟩ := encode_paymentRequest b
    -- the count of the name is cut in the middle
    rw [h, digits_add 4 4, List.append_assoc, ← List.append_assoc, List.take_left'
      (by rw [List.length_append, length_digits, length_digits]), value_append, value_digits_mod,
      value_digits_mod, length_digits]
    exact congrArg (· + _) (Nat.mod_eq_of_lt b.detailsVersion.toNat_lt)
  | payment b =>
    obtain ⟨rest, h⟩ := encode_payment b
    rw [h, take_digits_append, value_digits_mod]
    rfl
  | paymentAck b =>
    obtain ⟨more, hack⟩ := encode_paymentAck b
    obtain ⟨rest, h⟩ := encode_payment b.payment
    rw [hack, h, List.append_assoc, take_digits_append, value_digits_mod]
    rfl

/-! ## Twins -/

/-- Two bodies of different kinds with one writing. -/
structure Twins (a b : MessageBody) : Prop where
  messageType_ne : a.messageType ≠ b.messageType
  encode_eq : a.encode = b.encode

variable {a b : MessageBody}

theorem Twins.symm (h : Twins a b) : Twins b a := ⟨h.messageType_ne.symm, h.encode_eq.symm⟩

theorem Twins.opening_eq (h : Twins a b) : a.opening = b.opening := by
  rw [← value_take_encode, h.encode_eq, value_take_encode]

/-- A payment request whose network has a name that begins with an octet other than zero. -/
def NamesNetwork : MessageBody → Prop
  | paymentRequest b => ∃ octet rest, Utf8.encode b.details.network = octet :: rest ∧ octet ≠ 0
  | _ => False

/-- The name stands after twelve octets. -/
theorem drop_encode_paymentRequest (b : PaymentRequest) :
    ∃ rest, (paymentRequest b).encode.drop 12 = Utf8.encode b.details.network ++ rest := by
  obtain ⟨rest, h⟩ := encode_paymentRequest b
  refine ⟨rest, ?_⟩
  rw [h, ← List.append_assoc]
  exact List.drop_left' (by rw [List.length_append, length_digits, length_digits])

/-- In an invoice request, the higher half of the count of the memo stands after twelve octets. -/
theorem drop_encode_invoiceRequest (b : InvoiceRequest) :
    ∃ rest, (invoiceRequest b).encode.drop 12 =
      digits 4 ((Utf8.encode b.memo).length / 256 ^ 4) ++ rest := by
  obtain ⟨rest, h⟩ := encode_invoiceRequest b
  refine ⟨Utf8.encode b.memo ++ rest, ?_⟩
  rw [h, digits_add 4 4 (Utf8.encode b.memo).length, List.append_assoc, ← List.append_assoc]
  exact List.drop_left' (by rw [List.length_append, length_digits, length_digits])

/-- A request that names its network has no twin below four gigabytes: a memo or merchant data of that
size would have to stand where the name is counted. -/
theorem Twins.not_namesNetwork (h : Twins a b) (hlen : a.encode.length < 2 ^ 32) :
    ¬ a.NamesNetwork := by
  have hopening := h.opening_eq
  have hlen' : b.encode.length < 2 ^ 32 := h.encode_eq ▸ hlen
  cases a with
  | invoiceRequest _ | payment _ | paymentAck _ => exact id
  | paymentRequest r =>
    rintro ⟨octet, name, hname, hne⟩
    have hcount : 0 < (Utf8.encode r.details.network).length := by
      rw [hname]
      exact Nat.succ_pos _
    obtain ⟨rest, hr⟩ := encode_paymentRequest r
    rw [hr] at hlen
    simp only [List.length_append] at hlen
    cases b with
    | paymentRequest _ => exact h.messageType_ne rfl
    | invoiceRequest i =>
      obtain ⟨more, hi⟩ := encode_invoiceRequest i
      rw [hi] at hlen'
      simp only [List.length_append] at hlen'
      obtain ⟨rest, hr⟩ := drop_encode_paymentRequest r
      obtain ⟨more, hi⟩ := drop_encode_invoiceRequest i
      -- the name begins where a memo of this size has a zero in its count
      rw [h.encode_eq, hi, hname, Nat.div_eq_of_lt (by omega)] at hr
      exact hne (List.cons.inj hr).1.symm
    | payment p =>
      -- the count of the name is the higher half of the count of the merchant data
      obtain ⟨more, hp⟩ := encode_payment p
      rw [hp] at hlen'
      simp only [List.length_append, opening] at hlen' hopening
      omega
    | paymentAck k =>
      obtain ⟨_, hk⟩ := encode_paymentAck k
      obtain ⟨more, hp⟩ := encode_payment k.payment
      rw [hk, hp] at hlen'
      simp only [List.length_append, opening] at hlen' hopening
      omega

/-- **What twins look like**: they begin with the same number, and neither of them is a payment request
that names its network, unless they are four gigabytes long. -/
theorem Twins.looks (h : Twins a b) :
    a.opening = b.opening ∧
      (a.encode.length < 2 ^ 32 → ¬ a.NamesNetwork ∧ ¬ b.NamesNetwork) := by
  refine ⟨h.opening_eq, fun hlen => ⟨h.not_namesNetwork hlen, h.symm.not_namesNetwork ?_⟩⟩
  rwa [← h.encode_eq]

/-! ## Digests and signatures -/

theorem Twins.attestationDigest_eq (h : Twins a.attested.unsigned b.attested.unsigned) :
    a.attestationDigest = b.attestationDigest := by
  rw [MessageBody.attestationDigest_eq, h.encode_eq, MessageBody.attestationDigest_eq]

theorem Twins.senderDigest_eq (h : Twins (a.withSenderSignature "") (b.withSenderSignature "")) :
    a.senderDigest = b.senderDigest := by
  rw [senderDigest, h.encode_eq, senderDigest]

/-- Bodies of different kinds have one digest exactly if they are twins or collide. -/
theorem sha256Text_eq_iff (h : a.messageType ≠ b.messageType) :
    sha256Text a.encode = sha256Text b.encode ↔ Twins a b ∨ Collision a.encode b.encode := by
  constructor
  · intro htext
    rcases eq_or_collision (Hex.lower_injective htext) with heq | hcollision
    · exact Or.inl ⟨h, heq⟩
    · exact Or.inr hcollision
  · rintro (htwins | hcollision)
    · rw [htwins.encode_eq]
    · rw [sha256Text, hcollision.2, sha256Text]

/-- So it is for signatures, which can collide a second time. -/
theorem twins_or_collision_of_verifiesText (h : a.messageType ≠ b.messageType)
    {key : Rsa.PublicKey} {signature : String}
    (ha : verifiesText key (sha256Text a.encode) signature = true)
    (hb : verifiesText key (sha256Text b.encode) signature = true) :
    Twins a b ∨ Collision a.encode b.encode ∨
      Collision (Utf8.encode (sha256Text a.encode)) (Utf8.encode (sha256Text b.encode)) := by
  rcases eq_or_collision_of_verifiesText ha hb with heq | hcollision
  · exact Or.inl ⟨h, heq⟩
  · exact Or.inr hcollision

end MessageBody

open MessageBody (Twins)

/-- **Bodies of different kinds share what is signed exactly if it has one writing or collides.** This
goes for owners and for senders, and for their signatures, which fit both bodies only then. Bodies with
one writing begin with the same number, and neither is a payment request that names its network, unless
they are four gigabytes long. Owners of an acknowledgement sign the payment in it, so an acknowledgement
counts as a payment here. -/
theorem digests_apart {a b : MessageBody}
    (hkind : a.attested.messageType ≠ b.attested.messageType) :
    (a.attestationDigest = b.attestationDigest ↔
      Twins a.attested.unsigned b.attested.unsigned ∨
        Collision a.attested.unsigned.encode b.attested.unsigned.encode) ∧
    (a.senderDigest = b.senderDigest ↔
      Twins (a.withSenderSignature "") (b.withSenderSignature "") ∨
        Collision (a.withSenderSignature "").encode (b.withSenderSignature "").encode) ∧
    (∀ (key : Rsa.PublicKey) (signature : String),
      verifiesText key a.attestationDigest signature = true →
      verifiesText key b.attestationDigest signature = true →
        Twins a.attested.unsigned b.attested.unsigned ∨
          Collision a.attested.unsigned.encode b.attested.unsigned.encode ∨
          Collision (Utf8.encode a.attestationDigest) (Utf8.encode b.attestationDigest)) ∧
    (∀ (key : Rsa.PublicKey) (signature : String),
      verifiesText key a.senderDigest signature = true →
      verifiesText key b.senderDigest signature = true →
        Twins (a.withSenderSignature "") (b.withSenderSignature "") ∨
          Collision (a.withSenderSignature "").encode (b.withSenderSignature "").encode ∨
          Collision (Utf8.encode a.senderDigest) (Utf8.encode b.senderDigest)) ∧
    ∀ c d : MessageBody, Twins c d → c.opening = d.opening ∧
      (c.encode.length < 2 ^ 32 → ¬ c.NamesNetwork ∧ ¬ d.NamesNetwork) := by
  have hattested : a.attested.unsigned.messageType ≠ b.attested.unsigned.messageType := by
    rwa [MessageBody.messageType_unsigned, MessageBody.messageType_unsigned]
  have hwhole : (a.withSenderSignature "").messageType ≠ (b.withSenderSignature "").messageType := by
    rw [MessageBody.messageType_withSenderSignature, MessageBody.messageType_withSenderSignature]
    intro htype
    rw [MessageBody.messageType_attested, MessageBody.messageType_attested, htype] at hkind
    exact hkind rfl
  rw [MessageBody.attestationDigest_eq, MessageBody.attestationDigest_eq]
  refine ⟨MessageBody.sha256Text_eq_iff hattested, MessageBody.sha256Text_eq_iff hwhole,
    fun _ _ => MessageBody.twins_or_collision_of_verifiesText hattested,
    fun _ _ => MessageBody.twins_or_collision_of_verifiesText hwhole, fun _ _ h => h.looks⟩

/-- An invoice request of the holder of the sample certificate. The amount is the version of payment
details with the count of the name below. -/
def twinInvoice (signature : String) : MessageBody :=
  .invoiceRequest { InvoiceRequest.blank with
    amount := 0xC00000001
    notificationUrl := String.ofList (List.replicate 16 '\x00')
    sender := ⟨.x509Sha256, sampleClient.toPem, signature, ""⟩ }

/-- A payment request of the same sender. The name of the network is half a count of no octets, the
count of sixteen octets, and half of these. -/
def twinRequest (signature : String) : MessageBody :=
  .paymentRequest { PaymentRequest.blank with
    details := { PaymentDetails.blank with
      network := "\x00\x00\x00\x00\x10\x00\x00\x00\x00\x00\x00\x00" }
    sender := ⟨.x509Sha256, sampleClient.toPem, signature, ""⟩ }

theorem encode_twins (signature : String) :
    (twinInvoice signature).encode = (twinRequest signature).encode := by
  simp only [twinInvoice, twinRequest, MessageBody.encode, Wire.invoiceRequest,
    Wire.paymentRequest, Wire.paymentDetails, Codec.via, Codec.pair, ← List.append_assoc]
  refine congrArg (· ++ Wire.sender.encode _) ?_
  decide +kernel

/-- Blank signatures are signatures, so twins are twins without them. -/
theorem twins_sample (signature : String) :
    Twins (twinInvoice signature).attested.unsigned (twinRequest signature).attested.unsigned ∧
      Twins ((twinInvoice signature).withSenderSignature "")
        ((twinRequest signature).withSenderSignature "") :=
  ⟨⟨nofun, encode_twins ""⟩, ⟨nofun, encode_twins ""⟩⟩

/-- A payment that has the octets of another body, after the first eight, as its merchant data. -/
def paymentAround (body : MessageBody) : MessageBody :=
  .payment { Payment.blank with merchantData := (body.encode.drop 8).take body.opening }

/-- A sender that asserts itself. Its certificate is what a payment without anything but merchant data
ends with. -/
def assertedSender : SenderIdentity := ⟨.none, String.ofList (List.replicate 24 '\x00'), "", ""⟩

/-- An invoice request whose amount is the number of octets up to that certificate. -/
def assertedInvoice : MessageBody :=
  .invoiceRequest { InvoiceRequest.blank with amount := 84, sender := assertedSender }

/-- A payment request whose version is such a number. -/
def assertedRequest : MessageBody :=
  .paymentRequest { PaymentRequest.blank with
    detailsVersion := 88
    details := { PaymentDetails.blank with network := "" }
    sender := assertedSender }

theorem twins_paymentAround : Twins assertedInvoice (paymentAround assertedInvoice) ∧
    Twins assertedRequest (paymentAround assertedRequest) :=
  ⟨⟨nofun, by decide +kernel⟩, ⟨nofun, by decide +kernel⟩⟩

/-- The blank payment request is one of the standard network. It shares digests with the blank invoice
request only if these collide, while the twins of the sample sender share theirs. -/
theorem digests_apart_blank :
    (MessageBody.invoiceRequest .blank).attested.messageType ≠
        (MessageBody.paymentRequest .blank).attested.messageType ∧
      ((MessageBody.invoiceRequest .blank).attestationDigest =
          (MessageBody.paymentRequest .blank).attestationDigest →
        Collision (MessageBody.invoiceRequest .blank).unsigned.encode
          (MessageBody.paymentRequest .blank).unsigned.encode) ∧
      (twinInvoice "").attested.messageType ≠ (twinRequest "").attested.messageType ∧
      (twinInvoice "").attestationDigest = (twinRequest "").attestationDigest ∧
      (twinInvoice "").senderDigest = (twinRequest "").senderDigest := by
  have hblank : (MessageBody.invoiceRequest .blank).attested.messageType ≠
      (MessageBody.paymentRequest .blank).attested.messageType := nofun
  have htwins : (twinInvoice "").attested.messageType ≠ (twinRequest "").attested.messageType :=
    nofun
  obtain ⟨hattestation, _, _, _, hapart⟩ := digests_apart hblank
  refine ⟨hblank, fun hdigest => (hattestation.mp hdigest).resolve_left fun h => ?_, htwins,
    (digests_apart htwins).1.mpr (.inl (twins_sample "").1),
    (digests_apart htwins).2.1.mpr (.inl (twins_sample "").2)⟩
  have hnetwork : (MessageBody.paymentRequest .blank).attested.unsigned.NamesNetwork :=
    ⟨_, _, rfl, by decide⟩
  exact ((hapart _ _ h).2 (by decide +kernel)).2 hnetwork

/-- What the sender signs under either twin. -/
def twinSignature : String :=
  Hex.lower (Rsa.sign sampleKey (Utf8.encode (twinInvoice "").senderDigest))

/-- A body without owners is accepted with the signature of a sender who holds the sample
certificate. -/
theorem checkBody_of_sample {body : MessageBody} {signature : String}
    (howners : ∀ role owners, body.owners? role = some owners → owners = [])
    (hsender : body.sender? = some ⟨.x509Sha256, sampleClient.toPem, signature, ""⟩)
    (hsignature : signature = Hex.lower (Rsa.sign sampleKey (Utf8.encode body.senderDigest))) :
    checkBody [sampleChain] ⟨0⟩ body = .ok () := by
  refine checkBody_eq_ok_iff.mpr ⟨checkSender_of_sample hsender hsignature,
    checkAttestations_eq_ok_iff.mpr fun role owners h owner howner => ?_⟩
  rw [howners role owners h] at howner
  cases howner

theorem checkBody_twins : checkBody [sampleChain] ⟨0⟩ (twinInvoice twinSignature) = .ok () ∧
    checkBody [sampleChain] ⟨0⟩ (twinRequest twinSignature) = .ok () := by
  have hblank : (twinInvoice twinSignature).senderDigest = (twinInvoice "").senderDigest :=
    (twinInvoice "").senderDigest_withSenderSignature twinSignature
  have hsignature : twinSignature = Hex.lower (Rsa.sign sampleKey
      (Utf8.encode (twinInvoice twinSignature).senderDigest)) := by rw [hblank, ← twinSignature]
  refine ⟨checkBody_of_sample (fun role owners h => ?_) rfl hsignature,
    checkBody_of_sample (fun role owners h => ?_) rfl ?_⟩
  · cases role <;> cases h <;> rfl
  · cases role <;> cases h
    rfl
  · rw [← (twins_sample twinSignature).2.senderDigest_eq]
    exact hsignature

/-- Bodies of each two kinds for which owners sign the same. Two of them carry the same signature of the
same sender, and both are accepted. -/
theorem twins_share_signatures :
    (checkBody [sampleChain] ⟨0⟩ (twinInvoice twinSignature) = .ok () ∧
      checkBody [sampleChain] ⟨0⟩ (twinRequest twinSignature) = .ok () ∧
      (twinInvoice twinSignature).sender? =
        some ⟨.x509Sha256, sampleClient.toPem, twinSignature, ""⟩ ∧
      (twinRequest twinSignature).sender? =
        some ⟨.x509Sha256, sampleClient.toPem, twinSignature, ""⟩ ∧
      (twinInvoice twinSignature).senderDigest = (twinRequest twinSignature).senderDigest ∧
      Twins ((twinInvoice twinSignature).withSenderSignature "")
        ((twinRequest twinSignature).withSenderSignature "") ∧
      (twinInvoice twinSignature).attestationDigest =
        (twinRequest twinSignature).attestationDigest ∧
      Twins (twinInvoice twinSignature).unsigned (twinRequest twinSignature).unsigned) ∧
    (assertedInvoice.attestationDigest = (paymentAround assertedInvoice).attestationDigest ∧
      Twins assertedInvoice.unsigned (paymentAround assertedInvoice).unsigned) ∧
    assertedRequest.attestationDigest = (paymentAround assertedRequest).attestationDigest ∧
      Twins assertedRequest.unsigned (paymentAround assertedRequest).unsigned := by
  obtain ⟨hinvoice, hrequest⟩ := checkBody_twins
  obtain ⟨hunsigned, hwhole⟩ := twins_sample twinSignature
  obtain ⟨haround, haround'⟩ := twins_paymentAround
  exact ⟨⟨hinvoice, hrequest, rfl, rfl, hwhole.senderDigest_eq, hwhole,
    hunsigned.attestationDigest_eq, hunsigned⟩,
    ⟨Twins.attestationDigest_eq haround, haround⟩, Twins.attestationDigest_eq haround', haround'⟩

end AttestedPayments
