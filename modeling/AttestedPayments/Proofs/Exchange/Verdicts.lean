import AttestedPayments.Proofs.Exchange.Checks

/-!
# What a message must meet, and which fault it gets otherwise

* `Verdict` — the result of going through requirements one by one, up to the first that is not met;
  `VerdictOf` — the same for a step that has a result.
* `Requirement` — one thing that a body is checked for; `Requirement.Met` says what it is, and
  `Requirement.fault` is the fault of a message that does not meet it.
* `MessageBody.requirements` — all of them in order: the sender's signature, the certificate of
  extended validation, then originators before beneficiaries, owner by owner and entry by entry.
* `Accepted` — the same as one statement about sender and owners, in which no order occurs.

Principal result: `isValidAs_decides` — a message of a kind is valid exactly if it can be opened and its
body is `Accepted`; if not, it gets the fault of opening it, or that of the first requirement that its
body does not meet. There is no third answer.
-/

set_option autoImplicit false

namespace AttestedPayments

/-! ## Going through requirements -/

section Verdict

variable {α β ε : Type} {met : α → Prop} {fault : α → ε}

/-- The result of going through a list up to the first member that is not met. -/
inductive Verdict (met : α → Prop) (fault : α → ε) : List α → Except ε Unit → Prop where
  | done : Verdict met fault [] (.ok ())
  | next {a : α} {list : List α} {x : Except ε Unit} :
      met a → Verdict met fault list x → Verdict met fault (a :: list) x
  | stop {a : α} {list : List α} : ¬ met a → Verdict met fault (a :: list) (.error (fault a))

namespace Verdict

variable {list rest : List α} {x y : Except ε Unit}

theorem stop_of {a : α} {f : ε} (ha : ¬ met a) (hf : fault a = f) :
    Verdict met fault (a :: list) (.error f) := hf ▸ stop ha

/-- One list after another. -/
theorem append (hx : Verdict met fault list x) (hy : Verdict met fault rest y) :
    Verdict met fault (list ++ rest) (do x; y) := by
  induction hx with
  | done => exact hy
  | next ha _ ih => exact next ha ih
  | stop ha => exact stop ha

/-- Requirements that are made under a condition. -/
theorem ite {p : Prop} [Decidable p] (h : Verdict met fault list x) :
    Verdict met fault (if p then list else []) (if p then x else .ok ()) := by
  by_cases hp : p
  · rw [if_pos hp, if_pos hp]
    exact h
  · rw [if_neg hp, if_neg hp]
    exact done

/-- Requirements that are made of every member of another list. -/
theorem flatMap {requirements : β → List α} {check : β → Except ε Unit}
    (h : ∀ b, Verdict met fault (requirements b) (check b)) (bs : List β) :
    Verdict met fault (bs.flatMap requirements) (bs.forM check) := by
  induction bs with
  | nil => exact done
  | cons b bs ih =>
    rw [List.flatMap_cons]
    exact append (h b) ih

theorem eq_ok_iff (h : Verdict met fault list x) : x = .ok () ↔ ∀ a ∈ list, met a := by
  induction h with
  | done => simp
  | next ha _ ih => rw [ih, List.forall_mem_cons, and_iff_right ha]
  | stop ha =>
    rw [List.forall_mem_cons]
    exact ⟨nofun, fun h => absurd h.1 ha⟩

/-- The fault is that of a member which is not met, while all those before it are. -/
theorem eq_error_iff (h : Verdict met fault list x) (f : ε) :
    x = .error f ↔ ∃ before a after, list = before ++ a :: after ∧ (∀ b ∈ before, met b) ∧
      ¬ met a ∧ fault a = f := by
  induction h with
  | done => simp
  | @next a list x ha _ ih =>
    rw [ih]
    constructor
    · rintro ⟨before, b, after, rfl, hbefore, hb⟩
      exact ⟨a :: before, b, after, rfl, List.forall_mem_cons.mpr ⟨ha, hbefore⟩, hb⟩
    · rintro ⟨_ | ⟨c, before⟩, b, after, hlist, hbefore, hb⟩
      · cases hlist
        exact absurd ha hb.1
      · cases hlist
        exact ⟨before, b, after, rfl, (List.forall_mem_cons.mp hbefore).2, hb⟩
  | @stop a list ha =>
    rw [Except.error.injEq]
    constructor
    · intro hf
      exact ⟨[], a, list, rfl, List.forall_mem_nil _, ha, hf⟩
    · rintro ⟨_ | ⟨c, before⟩, b, after, hlist, hbefore, _, hf⟩
      · cases hlist
        exact hf
      · cases hlist
        exact absurd (List.forall_mem_cons.mp hbefore).1 ha

/-- A list is met and the result is that of the rest, or a member of it gives the fault. -/
theorem of_append (h : Verdict met fault (list ++ rest) x) :
    (∀ a ∈ list, met a) ∧ Verdict met fault rest x ∨
      ∃ a ∈ list, ¬ met a ∧ x = .error (fault a) := by
  induction list with
  | nil => exact .inl ⟨List.forall_mem_nil _, h⟩
  | cons a list ih =>
    cases h with
    | next ha h =>
      obtain ⟨hlist, hrest⟩ | ⟨b, hb, hfault⟩ := ih h
      · exact .inl ⟨List.forall_mem_cons.mpr ⟨ha, hlist⟩, hrest⟩
      · exact .inr ⟨b, List.mem_cons_of_mem _ hb, hfault⟩
    | stop ha => exact .inr ⟨a, List.mem_cons_self, ha, rfl⟩

/-- Requirements in groups: the first group that is not met gives the fault, up to what is the same
for all faults of a group. -/
theorem group {κ : Type} {requirements : β → List α} {holds : β → Prop} {kind : ε → κ}
    {kindOf : β → κ} (hholds : ∀ b, holds b ↔ ∀ a ∈ requirements b, met a)
    (hkind : ∀ b, ∀ a ∈ requirements b, kind (fault a) = kindOf b) {bs : List β}
    (h : Verdict met fault (bs.flatMap requirements) x) :
    Verdict holds kindOf bs (x.mapError kind) := by
  induction bs generalizing x with
  | nil =>
    cases h
    exact done
  | cons b bs ih =>
    rw [List.flatMap_cons] at h
    obtain ⟨hb, hrest⟩ | ⟨a, ha, hunmet, rfl⟩ := of_append h
    · exact next ((hholds b).mpr hb) (ih hrest)
    · exact stop_of (fun hb => hunmet ((hholds b).mp hb a ha)) (hkind b a ha).symm

/-- Requirements that are given by others. -/
theorem of_map {f : β → α} {bs : List β} (h : Verdict met fault (bs.map f) x) :
    Verdict (fun b => met (f b)) (fun b => fault (f b)) bs x := by
  induction bs with
  | nil =>
    cases h
    exact done
  | cons b bs ih =>
    cases h with
    | next hb h => exact next hb (ih h)
    | stop hb => exact stop hb

/-- Requirements in other words: they are met in the same cases, and otherwise have the same fault. -/
theorem map_congr {f g : β → α} {bs : List β} (h : Verdict met fault (bs.map f) x)
    (hmet : ∀ b ∈ bs, met (f b) ↔ met (g b))
    (hfault : ∀ b ∈ bs, ¬ met (f b) → fault (f b) = fault (g b)) :
    Verdict met fault (bs.map g) x := by
  induction bs with
  | nil => exact h
  | cons b bs ih =>
    obtain ⟨hb, hmet⟩ := List.forall_mem_cons.mp hmet
    obtain ⟨hfaultOf, hfault⟩ := List.forall_mem_cons.mp hfault
    cases h with
    | next hfb h => exact next (hb.mp hfb) (ih h hmet hfault)
    | stop hfb => exact stop_of (fun hgb => hfb (hb.mpr hgb)) (hfaultOf hfb).symm

end Verdict

/-! ### Steps with a result -/

/-- Requirements for a step, whatever its result is. -/
abbrev VerdictOf {γ : Type} (met : α → Prop) (fault : α → ε) (list : List α) (x : Except ε γ) :
    Prop :=
  Verdict met fault list (x.map fun _ => ())

namespace VerdictOf

variable {γ δ : Type} {list rest : List α}

theorem pure (c : γ) : VerdictOf met fault [] (.ok c : Except ε γ) := .done

theorem of_exists {x : Except ε γ} (h : ∃ c, x = .ok c) : VerdictOf met fault [] x := by
  obtain ⟨c, rfl⟩ := h
  exact pure c

/-- A step with one requirement. -/
theorem single {a : α} {x : Except ε γ} (hok : met a → ∃ c, x = .ok c)
    (herror : ¬ met a → x = .error (fault a)) : VerdictOf met fault [a] x := by
  by_cases ha : met a
  · obtain ⟨c, rfl⟩ := hok ha
    exact .next ha .done
  · rw [herror ha]
    exact .stop ha

/-- A step after another one, which may use the result of that. -/
theorem bind {x : Except ε γ} {f : γ → Except ε δ} (hx : VerdictOf met fault list x)
    (hf : ∀ c, x = .ok c → VerdictOf met fault rest (f c)) :
    VerdictOf met fault (list ++ rest) (x >>= f) := by
  unfold VerdictOf at hx
  cases x with
  | error e =>
    show Verdict met fault (list ++ rest) (.error e)
    generalize hy : (Except.error e : Except ε γ).map (fun _ => ()) = y at hx
    induction hx with
    | done => cases hy
    | next ha _ ih => exact .next ha (ih hy)
    | stop ha =>
      cases hy
      exact .stop ha
  | ok c =>
    generalize hy : (Except.ok c : Except ε γ).map (fun _ => ()) = y at hx
    induction hx with
    | done => exact hf c rfl
    | next ha _ ih => exact .next ha (ih hy)
    | stop ha => cases hy

/-- A last step that cannot fail. -/
theorem bind_ok {x : Except ε γ} {f : γ → δ} (hx : VerdictOf met fault list x) :
    VerdictOf met fault list (x >>= fun c => .ok (f c)) := by
  rw [← list.append_nil]
  exact hx.bind fun c _ => pure (f c)

/-- A step for every member of a list. -/
theorem mapM {requirements : β → List α} {f : β → Except ε γ}
    (h : ∀ b, VerdictOf met fault (requirements b) (f b)) (bs : List β) :
    VerdictOf met fault (bs.flatMap requirements) (bs.mapM f) := by
  induction bs with
  | nil => exact pure []
  | cons b bs ih =>
    rw [List.flatMap_cons, List.mapM_cons]
    exact (h b).bind fun _ _ => ih.bind_ok

theorem exists_eq_ok_iff {x : Except ε γ} (h : VerdictOf met fault list x) :
    (∃ c, x = .ok c) ↔ ∀ a ∈ list, met a := by
  rw [← Verdict.eq_ok_iff h]
  cases x with
  | error e => exact ⟨fun ⟨_, h⟩ => (nomatch h), nofun⟩
  | ok c => exact ⟨fun _ => rfl, fun _ => ⟨c, rfl⟩⟩

theorem map_eq_error_iff {x : Except ε γ} {e : ε} :
    (x.map fun _ => ()) = .error e ↔ x = .error e := by
  cases x with
  | error e' => exact ⟨fun h => by cases h; rfl, fun h => by cases h; rfl⟩
  | ok c => exact ⟨nofun, nofun⟩

theorem eq_error_iff {x : Except ε γ} (h : VerdictOf met fault list x) (f : ε) :
    x = .error f ↔ ∃ before a after, list = before ++ a :: after ∧ (∀ b ∈ before, met b) ∧
      ¬ met a ∧ fault a = f := by
  rw [← Verdict.eq_error_iff h, map_eq_error_iff]

end VerdictOf

end Verdict

/-! ## Requirements -/

/-- A signature verifies over a text under the RSA key of a certificate. -/
def SignatureFits (pem signature text : String) : Prop :=
  ∃ key, rsaKeyOfPem pem = .ok key ∧ verifiesText key text signature = true

/-- The fault of a certificate that is not trusted: the cause, if it was refused before any chain was
looked at. -/
def trustFault (result : Except PathFault Bool) (refused : PathFault → Fault) (untrusted : Fault) :
    Fault :=
  match result with
  | .error cause => refused cause
  | .ok _ => untrusted

/-- The fault of what could not be read, or else another one. -/
def causeOr {α : Type} (result : Except Fault α) (otherwise : Fault) : Fault :=
  match result with
  | .error cause => cause
  | .ok _ => otherwise

/-- One thing that a body is checked for. -/
inductive Requirement where
  /-- The certificate of the sender is trusted. -/
  | senderTrusted (sender : SenderIdentity)
  /-- The sender has put in a signature. -/
  | senderSigned (sender : SenderIdentity)
  | senderFits (sender : SenderIdentity)
  /-- The certificate of extended validation is trusted. -/
  | evTrusted (pem : String)
  /-- It has a policy of extended validation. -/
  | evExtended (pem : String)
  | entryTrusted (entry : OwnerEntry)
  | entrySigned (entry : OwnerEntry)
  | entryFits (entry : OwnerEntry)

namespace Requirement

/-- What a requirement says. The sender signs the body in which only its own signature is blank, owners
sign the one in which all signatures are blank. -/
def Met (chains : List Chain) (clock : Clock) (body : MessageBody) : Requirement → Prop
  | senderTrusted s => validate chains clock s.certificatePem = .ok true
  | senderSigned s => s.signature ≠ ""
  | senderFits s => SignatureFits s.certificatePem s.signature
      (sha256Text (body.withSenderSignature "").encode)
  | evTrusted pem => validate chains clock pem = .ok true
  | evExtended pem => isExtendedValidationPem pem = .ok true
  | entryTrusted e => validate chains clock e.certificatePem = .ok true
  | entrySigned e => e.signature ≠ ""
  | entryFits e => SignatureFits e.certificatePem e.signature
      (sha256Text body.attested.unsigned.encode)

/-- The fault of a message that does not meet a requirement. -/
def fault (chains : List Chain) (clock : Clock) : Requirement → Fault
  | senderTrusted s =>
    trustFault (validate chains clock s.certificatePem) PathFault.toFault (.chain .senderUntrusted)
  | senderSigned _ => .signature .senderMissing
  | senderFits s => causeOr (rsaKeyOfPem s.certificatePem) (.signature .sender)
  | evTrusted pem =>
    trustFault (validate chains clock pem) (.certificate ∘ .evRefused) (.certificate .evUntrusted)
  | evExtended pem => causeOr (isExtendedValidationPem pem) (.certificate .evWithoutPolicy)
  | entryTrusted e =>
    trustFault (validate chains clock e.certificatePem) (.chain ∘ .entryRefused e.attestation)
      (.chain (.entryUntrusted e.attestation))
  | entrySigned e => .signature (.entryMissing e.attestation)
  | entryFits e => causeOr (rsaKeyOfPem e.certificatePem) (.signature (.entry e.attestation))

end Requirement

/-- What is required of a sender. -/
def SenderIdentity.requirements (s : SenderIdentity) : List Requirement :=
  (if s.scheme.isSigned then [.senderTrusted s, .senderSigned s, .senderFits s] else []) ++
    (if s.evCertificatePem ≠ "" then [.evTrusted s.evCertificatePem, .evExtended s.evCertificatePem]
      else [])

/-- What is required of an entry whose scheme has signatures; only a primary owner must sign. -/
def OwnerEntry.requirements (isPrimary : Bool) (e : OwnerEntry) : List Requirement :=
  .entryTrusted e :: if isPrimary then [.entrySigned e, .entryFits e] else []

/-- What is required of an owner. -/
def Owner.requirements (o : Owner) : List Requirement :=
  (o.entries.filter fun e => e.scheme.isSigned).flatMap (OwnerEntry.requirements o.isPrimary)

/-- What is required of a body, in order. -/
def MessageBody.requirements (body : MessageBody) : List Requirement :=
  body.sender?.elim [] SenderIdentity.requirements ++
    [OwnerRole.originator, .beneficiary].flatMap fun role =>
      ((body.owners? role).getD []).flatMap Owner.requirements

/-! ## Verdicts on bodies -/

variable {chains : List Chain} {clock : Clock} {body : MessageBody}

/-- The first fault of a body, if there is one. -/
abbrev VerdictOn (chains : List Chain) (clock : Clock) (body : MessageBody) :
    List Requirement → Except Fault Unit → Prop :=
  Verdict (Requirement.Met chains clock body) (Requirement.fault chains clock)

open Verdict (done next stop)

-- verdicts are put together by unification, which would otherwise look for certificates in texts
seal validate rsaKeyOfPem isExtendedValidationPem

/-- A certificate is looked at before anything else that depends on it. -/
theorem verdict_trusted {r : Requirement} {list : List Requirement} {pem : String}
    {refused : PathFault → Fault} {untrusted : Fault} {x : Except Fault Unit}
    (hmet : r.Met chains clock body ↔ validate chains clock pem = .ok true)
    (hfault : r.fault chains clock = trustFault (validate chains clock pem) refused untrusted)
    (h : VerdictOn chains clock body list x) :
    VerdictOn chains clock body (r :: list)
      (match validate chains clock pem with
      | .error cause => .error (refused cause)
      | .ok false => .error untrusted
      | .ok true => x) := by
  cases htrusted : validate chains clock pem with
  | error cause =>
    rw [htrusted] at hmet hfault
    exact .stop_of (fun h => nomatch hmet.mp h) hfault
  | ok trusted =>
    rw [htrusted] at hmet hfault
    cases trusted with
    | false => exact .stop_of (fun h => nomatch hmet.mp h) hfault
    | true => exact next (hmet.mpr rfl) h

/-- There must be a signature, and it must fit. -/
theorem verdict_signature {signed fits : Requirement} {pem signature text : String}
    {missing bad : Fault} (hsigned : signed.Met chains clock body ↔ signature ≠ "")
    (hfits : fits.Met chains clock body ↔ SignatureFits pem signature text)
    (hmissing : signed.fault chains clock = missing)
    (hbad : fits.fault chains clock = causeOr (rsaKeyOfPem pem) bad) :
    VerdictOn chains clock body [signed, fits]
      (if signature = "" then .error missing
      else do
        let key ← rsaKeyOfPem pem
        if verifiesText key text signature then .ok () else .error bad) := by
  by_cases hempty : signature = ""
  · rw [if_pos hempty]
    exact .stop_of (fun h => hsigned.mp h hempty) hmissing
  · rw [if_neg hempty]
    refine next (hsigned.mpr hempty) ?_
    unfold SignatureFits at hfits
    cases hkey : rsaKeyOfPem pem with
    | error cause =>
      rw [hkey] at hfits hbad
      refine .stop_of (fun h => ?_) hbad
      obtain ⟨_, hkey, _⟩ := hfits.mp h
      cases hkey
    | ok key =>
      rw [hkey] at hfits hbad
      show VerdictOn chains clock body [fits]
        (if verifiesText key text signature then .ok () else .error bad)
      by_cases hverifies : verifiesText key text signature = true
      · rw [if_pos hverifies]
        exact next (hfits.mpr ⟨key, rfl, hverifies⟩) done
      · rw [if_neg hverifies]
        refine .stop_of (fun h => ?_) hbad
        obtain ⟨_, hkey, h⟩ := hfits.mp h
        cases hkey
        exact hverifies h

theorem verdict_checkSenderSignature (s : SenderIdentity) :
    VerdictOn chains clock body [.senderTrusted s, .senderSigned s, .senderFits s]
      (checkSenderSignature chains clock body s) :=
  verdict_trusted Iff.rfl rfl (verdict_signature Iff.rfl Iff.rfl rfl rfl)

theorem verdict_extended (pem : String) :
    VerdictOn chains clock body [.evExtended pem]
      (do if ← isExtendedValidationPem pem then .ok () else .error (.certificate .evWithoutPolicy)) := by
  have hmet : (Requirement.evExtended pem).Met chains clock body ↔
      isExtendedValidationPem pem = .ok true := Iff.rfl
  have hfault : (Requirement.evExtended pem).fault chains clock =
      causeOr (isExtendedValidationPem pem) (.certificate .evWithoutPolicy) := rfl
  cases hextended : isExtendedValidationPem pem with
  | error cause =>
    rw [hextended] at hmet hfault
    exact .stop_of (fun h => nomatch hmet.mp h) hfault
  | ok extended =>
    rw [hextended] at hmet hfault
    cases extended with
    | false => exact .stop_of (fun h => nomatch hmet.mp h) hfault
    | true => exact next (hmet.mpr rfl) done

theorem verdict_checkEvCertificate (pem : String) :
    VerdictOn chains clock body [.evTrusted pem, .evExtended pem]
      (checkEvCertificate chains clock pem) :=
  verdict_trusted Iff.rfl rfl (verdict_extended pem)

theorem verdict_checkSender :
    VerdictOn chains clock body (body.sender?.elim [] SenderIdentity.requirements)
      (checkSender chains clock body) := by
  cases hs : body.sender? with
  | none =>
    simp only [checkSender, hs]
    exact done
  | some s =>
    rw [checkSender_of_sender? hs]
    exact (verdict_checkSenderSignature s).ite.append (verdict_checkEvCertificate _).ite

theorem verdict_checkEntry (isPrimary : Bool) (e : OwnerEntry) :
    VerdictOn chains clock body (e.requirements isPrimary)
      (checkEntry chains clock body.attestationDigest isPrimary e) := by
  refine verdict_trusted Iff.rfl rfl ?_
  cases isPrimary with
  | false => exact done
  | true =>
    rw [body.attestationDigest_eq]
    exact verdict_signature Iff.rfl Iff.rfl rfl rfl

theorem verdict_checkOwner (o : Owner) :
    VerdictOn chains clock body o.requirements
      (checkOwner chains clock body.attestationDigest o) :=
  Verdict.flatMap (verdict_checkEntry o.isPrimary) _

theorem ownerLists_flatMap {α : Type} (f : List Owner → List α) (hf : f [] = []) :
    (body.ownerLists.flatMap fun list => f list.2) =
      [OwnerRole.originator, .beneficiary].flatMap fun role => f ((body.owners? role).getD []) := by
  cases body <;> simp [MessageBody.ownerLists, MessageBody.owners?, hf]

theorem verdict_checkAttestations :
    VerdictOn chains clock body
      ([OwnerRole.originator, .beneficiary].flatMap fun role =>
        ((body.owners? role).getD []).flatMap Owner.requirements)
      (checkAttestations chains clock body) := by
  rw [← ownerLists_flatMap (fun owners => owners.flatMap Owner.requirements) rfl]
  exact Verdict.flatMap (fun list => Verdict.flatMap verdict_checkOwner list.2) body.ownerLists

/-- **The check of a body goes through its requirements.** -/
theorem verdict_checkBody :
    VerdictOn chains clock body body.requirements (checkBody chains clock body) :=
  verdict_checkSender.append verdict_checkAttestations

/-! ## Acceptance -/

theorem PkiScheme.isSigned_iff {scheme : PkiScheme} : scheme.isSigned = true ↔ scheme = .x509Sha256 := by
  cases scheme <;> simp [PkiScheme.isSigned]

/-- What is required of a body, without an order. -/
structure Accepted (chains : List Chain) (clock : Clock) (body : MessageBody) : Prop where
  /-- A sender whose scheme has signatures has signed the body in which only its own signature is
  blank. -/
  sender : ∀ s, body.sender? = some s → s.scheme = .x509Sha256 →
    validate chains clock s.certificatePem = .ok true ∧ s.signature ≠ "" ∧
      SignatureFits s.certificatePem s.signature (sha256Text (body.withSenderSignature "").encode)
  extended : ∀ s, body.sender? = some s → s.evCertificatePem ≠ "" →
    validate chains clock s.evCertificatePem = .ok true ∧
      isExtendedValidationPem s.evCertificatePem = .ok true
  /-- Certificates of all owners are trusted; primary owners have signed the body in which all
  signatures are blank, or the payment in an acknowledgement. -/
  owners : ∀ role owners, body.owners? role = some owners → ∀ owner ∈ owners,
    ∀ entry ∈ owner.entries, entry.scheme = .x509Sha256 →
      validate chains clock entry.certificatePem = .ok true ∧
        (owner.isPrimary = true → entry.signature ≠ "" ∧
          SignatureFits entry.certificatePem entry.signature
            (sha256Text body.attested.unsigned.encode))

theorem accepted_iff_checkBody : Accepted chains clock body ↔ checkBody chains clock body = .ok () := by
  rw [checkBody_eq_ok_iff, checkSender_eq_ok_iff, checkAttestations_eq_ok_iff]
  simp only [checkSenderSignature_eq_ok_iff, checkEvCertificate_eq_ok_iff, checkEntry_eq_ok_iff,
    PkiScheme.isSigned_iff, body.attestationDigest_eq]
  constructor
  · rintro ⟨hsender, hextended, howners⟩
    exact ⟨fun s hs => ⟨hsender s hs, hextended s hs⟩, howners⟩
  · rintro ⟨hsender, howners⟩
    exact ⟨fun s hs => (hsender s hs).1, fun s hs => (hsender s hs).2, howners⟩

theorem accepted_iff_requirements :
    Accepted chains clock body ↔ ∀ r ∈ body.requirements, r.Met chains clock body := by
  rw [accepted_iff_checkBody, verdict_checkBody.eq_ok_iff]

/-- **A message of a kind is valid exactly if it can be opened and its body is accepted, and what is
refused gets the fault that comes first**: that of opening the envelope, or that of the first
requirement that the body does not meet. A body is accepted if it meets all of them. No message is
answered with `false`. -/
theorem isValidAs_decides (type : MessageType) (chains : List Chain) (clock : Clock)
    (octets : Bytes) (recipient : Option Recipient) :
    (isValidAs type chains clock octets recipient = .ok true ↔
      ∃ opened, openKind octets type (recipientKeys recipient) = .ok opened ∧
        Accepted chains clock opened.body) ∧
    isValidAs type chains clock octets recipient ≠ .ok false ∧
    (∀ fault, isValidAs type chains clock octets recipient = .error fault ↔
      openKind octets type (recipientKeys recipient) = .error fault ∨
        ∃ opened, openKind octets type (recipientKeys recipient) = .ok opened ∧
          ∃ before r after, opened.body.requirements = before ++ r :: after ∧
            (∀ b ∈ before, b.Met chains clock opened.body) ∧ ¬ r.Met chains clock opened.body ∧
              r.fault chains clock = fault) ∧
    ∀ body, Accepted chains clock body ↔ ∀ r ∈ body.requirements, r.Met chains clock body := by
  refine ⟨?_, fun h => ?_, fun fault => ?_, fun _ => accepted_iff_requirements⟩
  · simp only [isValidAs_eq_ok_iff, parseAs, accepted_iff_checkBody, true_and]
  · cases (isValidAs_eq_ok_iff.mp h).1
  · simp only [isValidAs_eq_error_iff, parseAs, verdict_checkBody.eq_error_iff]

end AttestedPayments
