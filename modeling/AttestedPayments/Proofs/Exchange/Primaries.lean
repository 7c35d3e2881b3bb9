import AttestedPayments.Proofs.Exchange.Completeness

/-!
# One primary owner a list

* `MessageBody.HasPrimaries` — the list of owners that a message must have has exactly one primary
  owner, and so has every other list that is not empty.
* `MessageBody.HasPrimaries.congr` — signatures have no part in it, so signing keeps it.
* `Draft.hasPrimaries_of_create` — a message is created only if what is given for its owners has its
  primary owners.
* `MessageBody.IsAsserted` — a body in which nobody signs.

Principal result: `hasPrimaries_by_create` — a created message has its primary owners for whoever can
open it, but reading does not count them: what nobody signs is valid with any number of primary owners.
`accepted_without_primaries` has a valid message of each kind that is amiss.
-/

set_option autoImplicit false

namespace AttestedPayments

open Codec (sizeLimit)

/-! ## Primary owners -/

/-- How many owners are primary. -/
def primaries (owners : List Owner) : Nat := owners.countP Owner.isPrimary

@[simp] theorem primaries_unsigned (owners : List Owner) :
    primaries (owners.map Owner.unsigned) = primaries owners := by
  rw [primaries, List.countP_map]
  rfl

/-- The list of owners that a message must have. -/
def MessageType.requiredRole : MessageType → OwnerRole
  | paymentRequest => .beneficiary
  | _ => .originator

namespace MessageBody

/-- The list that a body must have has one primary owner, and others have one or are empty. -/
structure HasPrimaries (body : MessageBody) : Prop where
  required : ∃ owners, body.owners? body.messageType.requiredRole = some owners ∧
    primaries owners = 1
  others : ∀ role owners, body.owners? role = some owners → owners = [] ∨ primaries owners = 1

/-- A body has the list that it must have. -/
theorem exists_owners_requiredRole (body : MessageBody) :
    ∃ owners, body.owners? body.messageType.requiredRole = some owners := by
  cases body <;> exact ⟨_, rfl⟩

/-- Only the lists of owners count, and signatures in them do not. -/
theorem HasPrimaries.congr {a b : MessageBody} (h : a.HasPrimaries)
    (htype : b.messageType = a.messageType)
    (howners : ∀ role, (b.owners? role).map (List.map Owner.unsigned) =
      (a.owners? role).map (List.map Owner.unsigned)) : b.HasPrimaries := by
  have hsame : ∀ {role owners}, b.owners? role = some owners →
      ∃ before, a.owners? role = some before ∧ primaries owners = primaries before ∧
        (before = [] → owners = []) := by
    intro role owners hrole
    have hmap := howners role
    rw [hrole, Option.map_some, eq_comm, Option.map_eq_some_iff] at hmap
    obtain ⟨before, hbefore, hmap⟩ := hmap
    refine ⟨before, hbefore, ?_, ?_⟩
    · rw [← primaries_unsigned, ← hmap, primaries_unsigned]
    · rintro rfl
      exact List.map_eq_nil_iff.mp hmap.symm
  constructor
  · obtain ⟨owners, hrole⟩ := b.exists_owners_requiredRole
    obtain ⟨before, hbefore, hcount, _⟩ := hsame hrole
    obtain ⟨_, hrequired, hone⟩ := h.required
    rw [← htype, hbefore] at hrequired
    cases hrequired
    exact ⟨owners, hrole, hcount.trans hone⟩
  · intro role owners hrole
    obtain ⟨before, hbefore, hcount, hempty⟩ := hsame hrole
    rw [hcount]
    exact (h.others role before hbefore).imp_left hempty

/-- What does not travel has no part in it. -/
theorem hasPrimaries_bare {body : MessageBody} : body.bare.HasPrimaries ↔ body.HasPrimaries := by
  constructor
  · intro h
    exact h.congr body.messageType_bare.symm fun role => by rw [owners?_bare]
  · intro h
    exact h.congr body.messageType_bare fun role => by rw [owners?_bare]

end MessageBody

/-! ## Creating -/

theorem checkOwners_eq_ok_iff {given : List OwnerCredentials} {role : OwnerRole} :
    checkOwners given role = .ok () ↔ given.countP OwnerCredentials.isPrimary = 1 := by
  unfold checkOwners
  split
  · rename_i h
    exact iff_of_true rfl h
  · rename_i h
    exact iff_of_false nofun (by omega)
  · rename_i h _
    exact iff_of_false nofun h

theorem checkOptionalOwners_eq_ok_iff {given : List OwnerCredentials} {role : OwnerRole} :
    checkOptionalOwners given role = .ok () ↔
      given = [] ∨ given.countP OwnerCredentials.isPrimary = 1 := by
  cases given with
  | nil => exact iff_of_true rfl (Or.inl rfl)
  | cons o given => exact checkOwners_eq_ok_iff.trans (or_iff_right (List.cons_ne_nil o given)).symm

/-- Owners are primary as their credentials are. -/
theorem primaries_ownersOf {given : List OwnerCredentials} {owners : List Owner}
    (h : ownersOf given = .ok owners) :
    primaries owners = given.countP OwnerCredentials.isPrimary := by
  replace h := mapM_eq_ok_iff.mp h
  unfold primaries
  induction h with
  | nil => rfl
  | cons ho _ ih =>
    obtain ⟨entries, _, ho⟩ := bind_eq_ok_iff.mp ho
    cases ho
    rw [List.countP_cons, List.countP_cons, ih]

namespace Draft

variable {draft : Draft} {clock : Clock} {sender : Sender} {recipient reader : Option Recipient}
  {settings : Settings} {octets : Bytes} {body attested signed : MessageBody}

/-- What is given for each list of owners has one primary owner, or is nothing where it may be. -/
def HasPrimaries (draft : Draft) : Prop :=
  ∀ role given, (role, given) ∈ draft.lists → given.countP OwnerCredentials.isPrimary = 1 ∨
    given = [] ∧ role ≠ draft.messageType.requiredRole

/-- What is given for owners is counted before anything else is done. -/
theorem hasPrimaries_of_create
    (h : draft.create clock sender recipient settings = .ok octets) : draft.HasPrimaries := by
  -- two of the kinds have both lists, and the same one of them must be there
  have hboth : ∀ {originators beneficiaries : List OwnerCredentials},
      checkOwners originators .originator = .ok () →
      checkOptionalOwners beneficiaries .beneficiary = .ok () →
      ∀ role given, (role, given) ∈
          [(OwnerRole.originator, originators), (.beneficiary, beneficiaries)] →
        given.countP OwnerCredentials.isPrimary = 1 ∨ given = [] ∧ role ≠ .originator := by
    intro originators beneficiaries ho hb role given hgiven
    obtain heq | heq := List.mem_pair.mp hgiven
    · cases heq
      exact .inl (checkOwners_eq_ok_iff.mp ho)
    · cases heq
      exact (checkOptionalOwners_eq_ok_iff.mp hb).symm.imp_right fun hempty => ⟨hempty, nofun⟩
  cases draft with
  | invoiceRequest p =>
    obtain ⟨_, ho, h⟩ := bind_eq_ok_iff.mp h
    obtain ⟨_, hb, _⟩ := bind_eq_ok_iff.mp h
    exact hboth ho hb
  | payment p =>
    obtain ⟨_, ho, h⟩ := bind_eq_ok_iff.mp h
    obtain ⟨_, hb, _⟩ := bind_eq_ok_iff.mp h
    exact hboth ho hb
  | paymentRequest p =>
    obtain ⟨_, hb, _⟩ := bind_eq_ok_iff.mp h
    intro role given hgiven
    cases List.mem_singleton.mp hgiven
    exact .inl (checkOwners_eq_ok_iff.mp hb)

/-- What was made of a draft has primary owners as the draft has. -/
theorem hasPrimaries_of_holds (hholds : draft.Holds sender body) (hdraft : draft.HasPrimaries) :
    body.HasPrimaries := by
  have hgiven : ∀ role owners, body.owners? role = some owners → primaries owners = 1 ∨
      owners = [] ∧ role ≠ body.messageType.requiredRole := by
    intro role owners hrole
    obtain ⟨given, hgiven, hof⟩ := hholds.backed.given role owners hrole
    rw [primaries_ownersOf hof, hholds.messageType_eq]
    refine (hdraft role given hgiven).imp_right fun ⟨hempty, hne⟩ => ⟨?_, hne⟩
    subst hempty
    cases hof
    rfl
  constructor
  · obtain ⟨owners, hrole⟩ := body.exists_owners_requiredRole
    exact ⟨owners, hrole, (hgiven _ owners hrole).resolve_right fun h => h.2 rfl⟩
  · intro role owners hrole
    exact (hgiven role owners hrole).symm.imp_left And.left

/-- Neither signing nor travelling changes who is primary. -/
theorem hasPrimaries_of_signed (hholds : draft.Holds sender body)
    (hattested : attestOwners body draft.lists = .ok attested)
    (hsigned : draft.signedBy sender attested signed) (h : body.HasPrimaries) :
    signed.bare.HasPrimaries := by
  refine h.congr ?_ fun role => ?_
  · rw [MessageBody.messageType_bare, messageType_of_created hholds hattested hsigned,
      hholds.messageType_eq]
  · -- owners put signatures into entries, the sender into no owner at all
    obtain ⟨records, hrecords⟩ := exists_records hattested
    have hsame : signed.owners? role = attested.owners? role := by
      obtain rfl | ⟨signature, rfl⟩ := signed_eq hsigned
      · rfl
      · exact attested.owners?_withSenderSignature signature role
    rw [MessageBody.owners?_bare, hsame, hrecords, MessageBody.owners?_mapOwners, Option.map_map]
    congr 1
    funext owners
    exact map_unsigned_resign _ _

/-- Who can open a created message finds the primary owners in it. -/
theorem exists_parseAs_of_create (h : draft.create clock sender recipient settings = .ok octets)
    (hlen : octets.length < sizeLimit)
    (hreadable : ReadableBy settings sender recipient reader octets) :
    ∃ opened, parseAs draft.messageType octets reader = .ok opened ∧
      opened.body.HasPrimaries := by
  have hdraft := hasPrimaries_of_create h
  obtain ⟨keys, body, attested, signed, hkeys, hholds, hattested, hsigned, hfinish⟩ := create_eq_ok h
  obtain ⟨metadata, hopen⟩ := openExpecting_of_enclose hfinish hlen (hreadable.reach hkeys)
    draft.messageType
  have hkind : signed.bare.messageType = draft.messageType := by
    rw [MessageBody.messageType_bare, messageType_of_created hholds hattested hsigned]
  exact ⟨⟨signed.bare, metadata⟩, bind_eq_ok_iff.mpr ⟨_, hopen, if_pos hkind⟩,
    hasPrimaries_of_signed hholds hattested hsigned (hasPrimaries_of_holds hholds hdraft)⟩

end Draft

/-! ## Reading -/

/-- A body in which nobody signs: neither sender nor owners have certificates to be checked. -/
structure MessageBody.IsAsserted (body : MessageBody) : Prop where
  sender : ∀ s, body.sender? = some s → s.scheme = .none ∧ s.evCertificatePem = ""
  owners : ∀ role owners, body.owners? role = some owners → ∀ owner ∈ owners,
    ∀ entry ∈ owner.entries, entry.scheme = .none

/-- There is nothing to check in it. -/
theorem MessageBody.IsAsserted.checkBody {chains : List Chain} {clock : Clock} {body : MessageBody}
    (h : body.IsAsserted) : checkBody chains clock body = .ok () := by
  refine checkBody_eq_ok_iff.mpr ⟨checkSender_eq_ok_iff.mpr fun s hs => ?_,
    checkAttestations_eq_ok_iff.mpr fun role owners howners owner howner entry hentry hsigned => ?_⟩
  · obtain ⟨hscheme, hev⟩ := h.sender s hs
    rw [hscheme]
    exact ⟨nofun, fun hne => absurd hev hne⟩
  · rw [h.owners role owners howners owner howner entry hentry] at hsigned
    cases hsigned

/-- A body in a plain envelope. -/
def plainOctets (clock : Clock) (body : MessageBody) (settings : Settings) : Bytes :=
  (Envelope.plain (.ofBody clock body settings)).encode

/-- It comes out of the envelope, less what does not travel. -/
theorem exists_parseAs_plainOctets (reader : Option Recipient) {clock : Clock} {body : MessageBody}
    {settings : Settings} (hlen : (plainOctets clock body settings).length < sizeLimit) :
    ∃ metadata, parseAs body.messageType (plainOctets clock body settings) reader =
      .ok ⟨body.bare, metadata⟩ := by
  have hbody := PlainEnvelope.body_ofBody clock body settings
    (Nat.lt_of_le_of_lt (PlainEnvelope.ofBody clock body settings).length_serialized_le hlen)
  exact ⟨_, bind_eq_ok_iff.mpr ⟨_, openExpecting_plain hbody hlen body.messageType _,
    if_pos body.messageType_bare⟩⟩

/-- **A created message has its primary owners, but a valid one need not.** Whoever can open what was
created finds one primary owner in the list that a message must have, and one or no owners in the
other. Checks of a message that was read do not count primary owners: a body in which nobody signs is
valid in a plain envelope, for everyone, with any number of them. -/
theorem hasPrimaries_by_create (chains : List Chain) (clock : Clock) (reader : Option Recipient) :
    (∀ (draft : Draft) (created : Clock) (sender : Sender) (recipient : Option Recipient)
        (settings : Settings) (octets : Bytes),
      draft.create created sender recipient settings = .ok octets → octets.length < sizeLimit →
      ReadableBy settings sender recipient reader octets →
        ∃ opened, parseAs draft.messageType octets reader = .ok opened ∧
          opened.body.HasPrimaries) ∧
    ∀ (created : Clock) (body : MessageBody) (settings : Settings), body.IsAsserted →
      (plainOctets created body settings).length < sizeLimit →
        isValidAs body.messageType chains clock (plainOctets created body settings) reader =
            .ok true ∧
          ∃ opened, parseAs body.messageType (plainOctets created body settings) reader =
              .ok opened ∧ (opened.body.HasPrimaries ↔ body.HasPrimaries) := by
  refine ⟨fun draft created sender recipient settings octets h hlen hreadable =>
    Draft.exists_parseAs_of_create h hlen hreadable, fun created body settings h hlen => ?_⟩
  obtain ⟨metadata, hparse⟩ := exists_parseAs_plainOctets reader hlen
  have hbare : body.bare.IsAsserted := by
    refine ⟨fun s hs => h.sender s ?_, fun role owners howners => h.owners role owners ?_⟩
    · rwa [MessageBody.sender?_bare] at hs
    · rwa [MessageBody.owners?_bare] at howners
  exact ⟨isValidAs_eq_ok_iff.mpr ⟨rfl, _, hparse, hbare.checkBody⟩, _, hparse,
    MessageBody.hasPrimaries_bare⟩

/-- Settings with an identifier of one octet. -/
def sampleSettings : Settings := { identifier := some [1] }

/-- A payment without owners. -/
def ownerlessPayment : MessageBody := .payment .blank

/-- An invoice request of two primary originators. -/
def doublyPrimaryInvoice : MessageBody :=
  .invoiceRequest { InvoiceRequest.blank with originators := [⟨true, []⟩, ⟨true, []⟩] }

/-- A payment request with a beneficiary who is not primary. -/
def nonprimaryRequest : MessageBody :=
  .paymentRequest { PaymentRequest.blank with beneficiaries := [⟨false, []⟩] }

theorem isAsserted_ownerlessPayment : ownerlessPayment.IsAsserted where
  sender s hs := by cases hs
  owners role owners howners owner howner := by
    cases role <;> cases howners <;> cases howner

theorem isAsserted_doublyPrimaryInvoice : doublyPrimaryInvoice.IsAsserted where
  sender s hs := by
    cases hs
    exact ⟨rfl, rfl⟩
  owners role owners howners owner howner := by
    cases role with
    | originator =>
      cases howners
      obtain rfl | rfl := List.mem_pair.mp howner <;> exact List.forall_mem_nil _
    | beneficiary =>
      cases howners
      cases howner

theorem isAsserted_nonprimaryRequest : nonprimaryRequest.IsAsserted where
  sender s hs := by
    cases hs
    exact ⟨rfl, rfl⟩
  owners role owners howners owner howner := by
    cases role with
    | originator => cases howners
    | beneficiary =>
      cases howners
      obtain rfl := List.mem_singleton.mp howner
      exact List.forall_mem_nil _

/-- A payment that was created has its primary owner; one without owners is valid all the same. -/
theorem hasPrimaries_by_create_payment :
    originatorDraft.create ⟨0⟩ ⟨none, none, none⟩ none sampleSettings =
        .ok (plainOctets ⟨0⟩ originatorPayment sampleSettings) ∧
      (plainOctets ⟨0⟩ originatorPayment sampleSettings).length < sizeLimit ∧
      (∃ opened, parseAs .payment (plainOctets ⟨0⟩ originatorPayment sampleSettings) none =
        .ok opened ∧ opened.body.HasPrimaries) ∧
      ownerlessPayment.IsAsserted ∧
      (plainOctets ⟨0⟩ ownerlessPayment sampleSettings).length < sizeLimit ∧
      isValidAs .payment [sampleChain] ⟨0⟩ (plainOctets ⟨0⟩ ownerlessPayment sampleSettings) none =
        .ok true ∧
      ∃ opened, parseAs .payment (plainOctets ⟨0⟩ ownerlessPayment sampleSettings) none =
        .ok opened ∧ (opened.body.HasPrimaries ↔ ownerlessPayment.HasPrimaries) := by
  have hcreate : originatorDraft.create ⟨0⟩ ⟨none, none, none⟩ none sampleSettings =
      .ok (plainOctets ⟨0⟩ originatorPayment sampleSettings) := rfl
  have hlen : (plainOctets ⟨0⟩ originatorPayment sampleSettings).length < sizeLimit := by
    decide +kernel
  have hlen' : (plainOctets ⟨0⟩ ownerlessPayment sampleSettings).length < sizeLimit := by
    decide +kernel
  obtain ⟨hcreated, hread⟩ := hasPrimaries_by_create [sampleChain] ⟨0⟩ none
  exact ⟨hcreate, hlen, hcreated _ _ _ _ _ _ hcreate hlen nofun, isAsserted_ownerlessPayment, hlen',
    hread _ _ _ isAsserted_ownerlessPayment hlen'⟩

/-- A message is valid as one of its kind, for a reader who trusts the sample root, and its body does
not have its primary owners. -/
def ValidWithoutPrimaries (octets : Bytes) (body : MessageBody) : Prop :=
  isValidAs body.messageType [sampleChain] ⟨0⟩ octets none = .ok true ∧
    (∃ metadata, parseAs body.messageType octets none = .ok ⟨body, metadata⟩) ∧
    ¬ body.HasPrimaries

theorem validWithoutPrimaries_of_isAsserted {body : MessageBody} (h : body.IsAsserted)
    (hlen : (plainOctets ⟨0⟩ body sampleSettings).length < sizeLimit) (hbare : body.bare = body)
    (hprimaries : ¬ body.HasPrimaries) :
    ValidWithoutPrimaries (plainOctets ⟨0⟩ body sampleSettings) body := by
  obtain ⟨metadata, hparse⟩ := exists_parseAs_plainOctets none hlen
  rw [hbare] at hparse
  exact ⟨isValidAs_eq_ok_iff.mpr ⟨rfl, _, hparse, h.checkBody⟩, ⟨metadata, hparse⟩, hprimaries⟩

/-- **Valid messages of each kind that are amiss**: a payment without owners, an invoice request of two
primary originators, and a payment request of a beneficiary who is not primary. -/
theorem accepted_without_primaries :
    ValidWithoutPrimaries (plainOctets ⟨0⟩ ownerlessPayment sampleSettings) ownerlessPayment ∧
      ValidWithoutPrimaries (plainOctets ⟨0⟩ doublyPrimaryInvoice sampleSettings)
        doublyPrimaryInvoice ∧
      ValidWithoutPrimaries (plainOctets ⟨0⟩ nonprimaryRequest sampleSettings)
        nonprimaryRequest := by
  refine ⟨validWithoutPrimaries_of_isAsserted isAsserted_ownerlessPayment (by decide +kernel) rfl ?_,
    validWithoutPrimaries_of_isAsserted isAsserted_doublyPrimaryInvoice (by decide +kernel) rfl ?_,
    validWithoutPrimaries_of_isAsserted isAsserted_nonprimaryRequest (by decide +kernel) rfl ?_⟩
  all_goals
    rintro ⟨⟨owners, howners, hcount⟩, _⟩
    cases howners
    revert hcount
    decide

end AttestedPayments
