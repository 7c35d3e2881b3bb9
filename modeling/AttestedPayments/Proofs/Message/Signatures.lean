import AttestedPayments.Message.Digest
import AttestedPayments.Proofs.Wire.Canonical

/-!
# What a signature changes in a body

* `MessageBody.mapOwners` — every list of owners replaced; signatures of owners are put in and taken
  out by functions of this form.
* `MessageBody.unsigned_mapOwners` — a body without signatures is the same before and after owners
  sign.
* `MessageBody.attested` — the part of a body that owners sign.
* `MessageBody.length_unsigned_le` — a body without signatures is not longer.
* `MessageBody.attestationDigest_bare`, `MessageBody.senderDigest_bare` — what does not travel is not
  signed.
* `MessageBody.bare_eq_of_blank` — bodies with the same sender signature are the same if they are
  so without it.
-/

set_option autoImplicit false

namespace AttestedPayments

namespace MessageBody

/-- The body with other lists of owners. -/
def mapOwners (f : OwnerRole → List Owner → List Owner) : MessageBody → MessageBody
  | invoiceRequest b =>
    invoiceRequest { b with
      originators := f .originator b.originators
      beneficiaries := f .beneficiary b.beneficiaries }
  | paymentRequest b => paymentRequest { b with beneficiaries := f .beneficiary b.beneficiaries }
  | payment b =>
    payment { b with
      originators := f .originator b.originators
      beneficiaries := f .beneficiary b.beneficiaries }
  | paymentAck b =>
    paymentAck { b with payment := { b.payment with
      originators := f .originator b.payment.originators
      beneficiaries := f .beneficiary b.payment.beneficiaries } }

variable (body : MessageBody) (f g : OwnerRole → List Owner → List Owner) (signature : String)

@[simp] theorem mapOwners_id : body.mapOwners (fun _ owners => owners) = body := by
  cases body <;> rfl

@[simp] theorem mapOwners_mapOwners :
    (body.mapOwners f).mapOwners g = body.mapOwners fun role owners => g role (f role owners) := by
  cases body <;> rfl

/-- Only the lists that a body has matter. -/
theorem mapOwners_congr {body : MessageBody} {f g : OwnerRole → List Owner → List Owner}
    (h : ∀ role owners, body.owners? role = some owners → f role owners = g role owners) :
    body.mapOwners f = body.mapOwners g := by
  cases body with
  | invoiceRequest b => simp only [mapOwners, h .originator _ rfl, h .beneficiary _ rfl]
  | paymentRequest b => simp only [mapOwners, h .beneficiary _ rfl]
  | payment b => simp only [mapOwners, h .originator _ rfl, h .beneficiary _ rfl]
  | paymentAck b => simp only [mapOwners, h .originator _ rfl, h .beneficiary _ rfl]

@[simp] theorem owners?_mapOwners (role : OwnerRole) :
    (body.mapOwners f).owners? role = (body.owners? role).map (f role) := by
  cases body <;> cases role <;> rfl

@[simp] theorem messageType_mapOwners : (body.mapOwners f).messageType = body.messageType := by
  cases body <;> rfl

@[simp] theorem sender?_mapOwners : (body.mapOwners f).sender? = body.sender? := by
  cases body <;> rfl

@[simp] theorem owners?_bare (role : OwnerRole) : body.bare.owners? role = body.owners? role := by
  cases body <;> cases role <;> rfl

@[simp] theorem sender?_bare : body.bare.sender? = body.sender? := by
  cases body <;> rfl

/-- Other owners in a role that the body has. -/
theorem withOwners_eq_mapOwners (role : OwnerRole) (owners : List Owner) :
    body.withOwners role owners =
      body.mapOwners fun r old => if r = role then owners else old := by
  cases body <;> cases role <;> rfl

theorem mem_ownerLists {role : OwnerRole} {owners : List Owner} :
    (role, owners) ∈ body.ownerLists ↔ body.owners? role = some owners := by
  rw [ownerLists, List.mem_filterMap]
  constructor
  · rintro ⟨r, _, h⟩
    obtain ⟨l, hl, he⟩ := Option.map_eq_some_iff.mp h
    cases he
    exact hl
  · intro h
    refine ⟨role, ?_, by rw [h]; rfl⟩
    cases role <;> simp

/-! ## Sender signatures -/

@[simp] theorem withSenderSignature_withSenderSignature (other : String) :
    (body.withSenderSignature other).withSenderSignature signature =
      body.withSenderSignature signature := by
  cases body <;> rfl

@[simp] theorem withSenderSignature_mapOwners :
    (body.mapOwners f).withSenderSignature signature =
      (body.withSenderSignature signature).mapOwners f := by
  cases body <;> rfl

@[simp] theorem messageType_withSenderSignature :
    (body.withSenderSignature signature).messageType = body.messageType := by
  cases body <;> rfl

@[simp] theorem owners?_withSenderSignature (role : OwnerRole) :
    (body.withSenderSignature signature).owners? role = body.owners? role := by
  cases body <;> cases role <;> rfl

@[simp] theorem sender?_withSenderSignature :
    (body.withSenderSignature signature).sender? =
      body.sender?.map fun sender => { sender with signature := signature } := by
  cases body <;> rfl

@[simp] theorem bare_withSenderSignature :
    (body.withSenderSignature signature).bare = body.bare.withSenderSignature signature := by
  cases body <;> rfl

/-- The signature that a body has already changes nothing. -/
theorem withSenderSignature_self {sender : SenderIdentity} (h : body.sender? = some sender) :
    body.withSenderSignature sender.signature = body := by
  cases body <;> cases h <;> rfl

/-- A blank text is not longer than another one. -/
theorem length_text_empty_le (s : String) :
    (Codec.text.encode "").length ≤ (Codec.text.encode s).length := by
  show (Codec.count.encode 0 ++ []).length ≤
    (Codec.count.encode (Utf8.encode s).length ++ Utf8.encode s).length
  simp only [List.length_append, Codec.length_count, List.length_nil]
  omega

/-- A body without the sender's signature is not longer. -/
theorem length_encode_blank_le :
    (body.withSenderSignature "").encode.length ≤ body.encode.length := by
  have hsender : ∀ s : SenderIdentity,
      (Wire.sender.encode { s with signature := "" }).length ≤ (Wire.sender.encode s).length := by
    intro s
    have hempty := length_text_empty_le s.signature
    simp only [Wire.sender, Codec.via, Codec.pair, List.length_append]
    omega
  cases body with
  | invoiceRequest b =>
    have := hsender b.sender
    simp only [withSenderSignature, encode, Wire.invoiceRequest, Codec.via, Codec.pair,
      List.length_append]
    omega
  | paymentRequest b =>
    have := hsender b.sender
    simp only [withSenderSignature, encode, Wire.paymentRequest, Codec.via, Codec.pair,
      List.length_append]
    omega
  | payment b => exact Nat.le_refl _
  | paymentAck b => exact Nat.le_refl _

/-- Bodies that carry the same sender signature are the same, apart from what does not travel, if
they are so without it. -/
theorem bare_eq_of_blank {a b : MessageBody} {s t : SenderIdentity} (ha : a.sender? = some s)
    (hb : b.sender? = some t) (hsignature : s.signature = t.signature)
    (h : (a.withSenderSignature "").bare = (b.withSenderSignature "").bare) : a.bare = b.bare := by
  have h := congrArg (·.withSenderSignature s.signature) h
  simp only [bare_withSenderSignature, withSenderSignature_withSenderSignature] at h
  rw [← bare_withSenderSignature, ← bare_withSenderSignature, a.withSenderSignature_self ha,
    hsignature, b.withSenderSignature_self hb] at h
  exact h

/-! ## Bodies without signatures -/

theorem withoutOwnerSignatures_eq :
    body.withoutOwnerSignatures =
      body.mapOwners fun _ owners => owners.map Owner.unsigned := by
  cases body <;> rfl

/-- A list is not longer for members that are not longer. -/
theorem length_list_map_le {α : Type} {c : Codec α} {f : α → α}
    (h : ∀ a, (c.encode (f a)).length ≤ (c.encode a).length) (as : List α) :
    ((Codec.list c).encode (as.map f)).length ≤ ((Codec.list c).encode as).length := by
  have hmembers : ((as.map f).flatMap c.encode).length ≤ (as.flatMap c.encode).length := by
    induction as with
    | nil => exact Nat.le_refl _
    | cons a as ih =>
      have ha := h a
      simp only [List.map_cons, List.flatMap_cons, List.length_append]
      omega
  simp only [Codec.list, List.length_append, Codec.length_count]
  omega

/-- Owners without signatures are not longer. -/
theorem length_owners_unsigned_le (owners : List Owner) :
    ((Codec.list Wire.owner).encode (owners.map Owner.unsigned)).length ≤
      ((Codec.list Wire.owner).encode owners).length := by
  have hentry : ∀ e : OwnerEntry,
      (Wire.ownerEntry.encode e.unsigned).length ≤ (Wire.ownerEntry.encode e).length := by
    intro e
    have hempty := length_text_empty_le e.signature
    simp only [Wire.ownerEntry, Codec.via, Codec.pair, List.length_append, OwnerEntry.unsigned]
    omega
  refine length_list_map_le (fun o => ?_) owners
  have hentries := length_list_map_le hentry o.entries
  simp only [Wire.owner, Codec.via, Codec.pair, List.length_append, Owner.unsigned]
  omega

/-- A body without signatures is not longer. -/
theorem length_unsigned_le : body.unsigned.encode.length ≤ body.encode.length := by
  refine Nat.le_trans ?_ body.length_encode_blank_le
  rw [unsigned, withoutOwnerSignatures_eq]
  cases body.withSenderSignature "" with
  | invoiceRequest b =>
    have horiginators := length_owners_unsigned_le b.originators
    have hbeneficiaries := length_owners_unsigned_le b.beneficiaries
    simp only [mapOwners, encode, Wire.invoiceRequest, Codec.via, Codec.pair, List.length_append]
    omega
  | paymentRequest b =>
    have hbeneficiaries := length_owners_unsigned_le b.beneficiaries
    simp only [mapOwners, encode, Wire.paymentRequest, Codec.via, Codec.pair, List.length_append]
    omega
  | payment b =>
    have horiginators := length_owners_unsigned_le b.originators
    have hbeneficiaries := length_owners_unsigned_le b.beneficiaries
    simp only [mapOwners, encode, Wire.payment, Codec.via, Codec.pair, List.length_append]
    omega
  | paymentAck b =>
    have horiginators := length_owners_unsigned_le b.payment.originators
    have hbeneficiaries := length_owners_unsigned_le b.payment.beneficiaries
    simp only [mapOwners, encode, Wire.paymentAck, Wire.payment, Codec.via, Codec.pair,
      List.length_append]
    omega

/-- Putting signatures into the entries of owners does not change a body without signatures. -/
theorem unsigned_mapOwners
    (h : ∀ role owners, (f role owners).map Owner.unsigned = owners.map Owner.unsigned) :
    (body.mapOwners f).unsigned = body.unsigned := by
  simp only [unsigned, withSenderSignature_mapOwners, withoutOwnerSignatures_eq,
    mapOwners_mapOwners, h]

@[simp] theorem unsigned_bare : body.bare.unsigned = body.unsigned.bare := by
  cases body <;> rfl

/-! ## Digests -/

/-- The body that owners sign: of an acknowledgement, the payment. -/
def attested : MessageBody → MessageBody
  | invoiceRequest b => invoiceRequest b
  | paymentRequest b => paymentRequest b
  | payment b => payment b
  | paymentAck b => payment b.payment

/-- What owners sign is not longer than the body. -/
theorem length_attested_unsigned_le :
    body.attested.unsigned.encode.length ≤ body.encode.length := by
  cases body with
  | paymentAck b =>
    refine Nat.le_trans (payment b.payment).length_unsigned_le ?_
    simp only [encode, Wire.paymentAck, Codec.via, Codec.pair, List.length_append]
    omega
  | invoiceRequest b => exact length_unsigned_le _
  | paymentRequest b => exact length_unsigned_le _
  | payment b => exact length_unsigned_le _

@[simp] theorem messageType_unsigned : body.unsigned.messageType = body.messageType := by
  rw [unsigned, withoutOwnerSignatures_eq, messageType_mapOwners, messageType_withSenderSignature]

/-- Owners of an acknowledgement sign a payment, all others a body of the same kind. -/
theorem messageType_attested :
    body.attested.messageType =
      if body.messageType = .paymentAck then .payment else body.messageType := by
  cases body <;> rfl

theorem attestationDigest_eq :
    body.attestationDigest = sha256Text body.attested.unsigned.encode := by
  cases body <;> rfl

@[simp] theorem attested_bare : body.bare.attested = body.attested.bare := by
  cases body <;> rfl

@[simp] theorem attested_mapOwners : (body.mapOwners f).attested = body.attested.mapOwners f := by
  cases body <;> rfl

@[simp] theorem attestationDigest_bare : body.bare.attestationDigest = body.attestationDigest := by
  rw [attestationDigest_eq, attested_bare, unsigned_bare, encode_bare, attestationDigest_eq]

@[simp] theorem senderDigest_bare : body.bare.senderDigest = body.senderDigest := by
  rw [senderDigest, ← bare_withSenderSignature, encode_bare, senderDigest]

/-- What owners sign does not depend on their signatures. -/
theorem attestationDigest_mapOwners
    (h : ∀ role owners, (f role owners).map Owner.unsigned = owners.map Owner.unsigned) :
    (body.mapOwners f).attestationDigest = body.attestationDigest := by
  rw [attestationDigest_eq, attested_mapOwners, unsigned_mapOwners _ f h, attestationDigest_eq]

@[simp] theorem attestationDigest_withSenderSignature :
    (body.withSenderSignature signature).attestationDigest = body.attestationDigest := by
  cases body <;> rfl

@[simp] theorem senderDigest_withSenderSignature :
    (body.withSenderSignature signature).senderDigest = body.senderDigest := by
  rw [senderDigest, withSenderSignature_withSenderSignature, senderDigest]

end MessageBody

end AttestedPayments
