import AttestedPayments.Proofs.Exchange.Primaries
import AttestedPayments.Proofs.Exchange.Verdicts
import AttestedPayments.Proofs.Faults

/-!
# What is needed to create a message

* `Need` — one thing that is needed, with the fault that tells of its absence.
* `Stage` — the seven stages of creating a message: owners, keys for encryption, certificates of sender
  and owners, private keys of owners and sender, and the keys for encryption once more, which are only
  read in the end.
* `Stage.Holds` — what a stage demands of the arguments; `Stage.needs` — the same as single needs in
  the order in which they are looked at.
* `Stage.holds_iff`, `Stage.kind_of_mem_needs` — both say the same, and the faults of a stage are all
  about one thing.
* `Draft.KeysSuffice` — the RSA keys that can be read can also sign: they have room for a digest, and
  their factors are primes (`Rsa.PrivateKey.IsHalfOf.canSign`).
* `Draft.verdict_create` — with such keys, creating a message goes through the needs of all stages, and
  nothing else can fail: there is an entry for each signature (`exists_attach_of_records`), and a private
  key that was read for encryption is read again for the signature of the envelope.

Principal result: `create_decides`.
-/

set_option autoImplicit false

namespace AttestedPayments

open Curve (SecretKey PublicKey)

/-! ## Needs -/

/-- One thing that is needed, and the fault that tells of its absence. -/
structure Need where
  met : Prop
  fault : Fault

/-- A step that fails at the first need that is not met, and at nothing else. -/
abbrev Requires {α : Type} (needs : List Need) (x : Except Fault α) : Prop :=
  VerdictOf Need.met Need.fault needs x

/-- The fault of a list of owners that has not one primary owner. -/
def primariesFault (role : OwnerRole) (given : List OwnerCredentials) : Fault :=
  match given.countP OwnerCredentials.isPrimary with
  | 0 => .owners (.noPrimary role)
  | n => .owners (.manyPrimaries role n)

/-- The private key of a credential is there, and it can be read. -/
def Credential.HasKey (c : Credential) : Prop :=
  ∃ pem key, c.privateKeyPem = some pem ∧ Rsa.PrivateKey.ofPem pem = .ok key

/-- A private key to sign with. -/
def Credential.keyNeed (missing : CredentialFault) (c : Credential) : Need where
  met := c.HasKey
  fault :=
    match c.privateKeyPem with
    | none => .key missing
    | some pem => causeOr (liftKey (Rsa.PrivateKey.ofPem pem)) (.key missing)

/-- There is a signature of a digest by the private key of a credential. -/
def Credential.Signs (c : Credential) (digest : String) : Prop :=
  ∃ pem signature, c.privateKeyPem = some pem ∧ signDigest pem digest = .ok signature

/-- A signature of a digest. -/
def Credential.signNeed (missing : CredentialFault) (digest : String) (c : Credential) : Need where
  met := c.Signs digest
  fault :=
    match c.privateKeyPem with
    | none => .key missing
    | some pem => causeOr (signDigest pem digest) (.key missing)

/-- A private key that can be read can sign. -/
def Credential.KeySuffices (c : Credential) : Prop :=
  ∀ pem key, c.privateKeyPem = some pem → Rsa.PrivateKey.ofPem pem = .ok key → key.CanSign

/-- The certificate of an entry whose scheme has signatures. -/
def Credential.certificateNeeds (c : Credential) : List Need :=
  if c.scheme.isSigned then
    [⟨c.certificatePem ≠ none, .certificate (.entryMissing c.attestation c.scheme)⟩]
  else []

/-- The certificate of a sender that signs. -/
def Credential.senderCertificateNeed (c : Credential) : Need :=
  ⟨c.certificatePem ≠ none, .certificate .senderMissing⟩

/-- The private key for an entry. -/
def Credential.entryKeyNeed (c : Credential) : Need :=
  c.keyNeed (.entryPrivateKeyMissing c.attestation)

/-- A signature for an entry. -/
def Credential.entrySignNeed (digest : String) (c : Credential) : Need :=
  c.signNeed (.entryPrivateKeyMissing c.attestation) digest

/-- A need of an entry whose scheme has signatures; only primary owners sign. -/
def Credential.ifSigning (need : Credential → Need) (isPrimary : Bool) (c : Credential) : List Need :=
  if c.scheme.isSigned && isPrimary then [need c] else []

/-- The credentials that lists of owners sign with: those of primary owners whose scheme has
signatures. -/
def signingCredentials (lists : List (OwnerRole × List OwnerCredentials)) : List Credential :=
  lists.flatMap fun list => list.2.flatMap fun o =>
    o.credentials.filter fun c => c.scheme.isSigned && o.isPrimary

/-- A key on the curve that can be read. -/
def curveKeyNeed {α : Type} (read : Except KeyFault α) : Need where
  met := ∃ key, read = .ok key
  fault := causeOr (liftSealing (Sealing.withKey read)) (.encryption .senderPrivateKeyMissing)

/-- The keys of sender and recipient that an envelope is encrypted with. -/
def sealingNeeds (sender recipient : EncryptionKeys) : List Need :=
  [⟨sender.privateKeyPem ≠ none, .encryption .senderPrivateKeyMissing⟩,
    curveKeyNeed (PublicKey.ofPem recipient.publicKeyPem),
    curveKeyNeed (PublicKey.ofPem sender.publicKeyPem),
    curveKeyNeed (SecretKey.ofPem (sender.privateKeyPem.getD ""))]

/-- The keys of both sides, if the settings ask for encryption. -/
def givenKeyNeeds (settings : Settings) (sender : Sender) (recipient : Option Recipient) :
    List Need :=
  if settings.encrypt then
    [⟨sender.encryptionKeys ≠ none, .encryption .senderKeysMissing⟩,
      ⟨recipientKeys recipient ≠ none, .encryption .recipientKeysMissing⟩]
  else []

/-- The same keys once they are used. -/
def usedKeyNeeds (settings : Settings) (sender : Sender) (recipient : Option Recipient) :
    List Need :=
  if settings.encrypt then
    match sender.encryptionKeys, recipientKeys recipient with
    | some s, some r => sealingNeeds s r
    | _, _ => []
  else []

/-- All keys that an envelope is encrypted with are there and can be read. -/
structure CanSeal (sender recipient : EncryptionKeys) : Prop where
  recipientPublic : ∃ key, PublicKey.ofPem recipient.publicKeyPem = .ok key
  senderPublic : ∃ key, PublicKey.ofPem sender.publicKeyPem = .ok key
  senderPrivate : ∃ pem key, sender.privateKeyPem = some pem ∧ SecretKey.ofPem pem = .ok key

namespace Draft

/-- What is needed of a sender that signs; the sender of a payment does not. -/
def signerNeeds (draft : Draft) (sender : Sender) (need : Credential → Need) : List Need :=
  if draft.messageType = .payment then [] else sender.signingCredential?.toList.map need

/-- Owners and sender sign with keys that can sign, as far as these can be read. -/
structure KeysSuffice (draft : Draft) (sender : Sender) : Prop where
  owners : ∀ c ∈ signingCredentials draft.lists, c.KeySuffices
  sender : draft.messageType ≠ .payment →
    ∀ c, sender.signingCredential? = some c → c.KeySuffices

/-- What is needed of all entries, by owner. -/
def entryNeeds (draft : Draft) (needs : OwnerCredentials → Credential → List Need) : List Need :=
  draft.lists.flatMap fun list => list.2.flatMap fun o => o.credentials.flatMap (needs o)

end Draft

/-- The stages of creating a message. -/
inductive Stage where
  | primaries
  | keysGiven
  | senderCertificate
  | ownerCertificates
  | ownerKeys
  | senderKey
  | keysReadable
  deriving DecidableEq, Repr

namespace Stage

/-- The stages in their order. -/
def all : List Stage :=
  [primaries, keysGiven, senderCertificate, ownerCertificates, ownerKeys, senderKey, keysReadable]

theorem mem_all (stage : Stage) : stage ∈ all := by
  cases stage <;> decide

/-- What the faults of a stage are about. -/
def kind : Stage → FaultKind
  | primaries => .owners
  | keysGiven => .encryption
  | senderCertificate => .certificate
  | ownerCertificates => .certificate
  | ownerKeys => .key
  | senderKey => .key
  | keysReadable => .encryption

section

variable (draft : Draft) (sender : Sender) (recipient : Option Recipient) (settings : Settings)

/-- What a stage demands. -/
def Holds : Stage → Prop
  -- the list of owners that must be there has one primary owner, another one has one or is empty
  | primaries => draft.HasPrimaries
  | keysGiven => settings.encrypt = true →
    sender.encryptionKeys ≠ none ∧ recipientKeys recipient ≠ none
  -- the sender of a payment does not sign
  | senderCertificate => draft.messageType ≠ .payment → ∀ c, sender.credential = some c →
    c.scheme = .x509Sha256 → c.certificatePem ≠ none
  | ownerCertificates => ∀ role given, (role, given) ∈ draft.lists → ∀ o ∈ given,
    ∀ c ∈ o.credentials, c.scheme = .x509Sha256 → c.certificatePem ≠ none
  | ownerKeys => ∀ role given, (role, given) ∈ draft.lists → ∀ o ∈ given, o.isPrimary = true →
    ∀ c ∈ o.credentials, c.scheme = .x509Sha256 → c.HasKey
  | senderKey => draft.messageType ≠ .payment → ∀ c, sender.credential = some c →
    c.scheme = .x509Sha256 → c.HasKey
  | keysReadable => settings.encrypt = true → ∀ s r, sender.encryptionKeys = some s →
    recipientKeys recipient = some r → CanSeal s r

/-- What a stage needs, one after the other. -/
def needs : Stage → List Need
  | primaries => draft.lists.map fun list =>
    ⟨list.2.countP OwnerCredentials.isPrimary = 1 ∨
      list.2 = [] ∧ list.1 ≠ draft.messageType.requiredRole, primariesFault list.1 list.2⟩
  | keysGiven => givenKeyNeeds settings sender recipient
  | senderCertificate => draft.signerNeeds sender Credential.senderCertificateNeed
  | ownerCertificates => draft.entryNeeds fun _ c => c.certificateNeeds
  | ownerKeys => draft.entryNeeds fun o => Credential.ifSigning Credential.entryKeyNeed o.isPrimary
  | senderKey => draft.signerNeeds sender (Credential.keyNeed .senderPrivateKeyMissing)
  | keysReadable => usedKeyNeeds settings sender recipient

end

end Stage

/-! ## Stages and their needs -/

section

variable {draft : Draft} {sender : Sender} {recipient : Option Recipient} {settings : Settings}
  {p : Need → Prop}

theorem forall_mem_signerNeeds {need : Credential → Need} :
    (∀ n ∈ draft.signerNeeds sender need, p n) ↔ (draft.messageType ≠ .payment →
      ∀ c, sender.credential = some c → c.scheme = .x509Sha256 → p (need c)) := by
  unfold Draft.signerNeeds
  split
  · rename_i hpayment
    exact iff_of_true (fun _ h => nomatch h) fun h => absurd hpayment h
  · rename_i hsigned
    simp only [List.forall_mem_map, Option.mem_toList, Sender.signingCredential?,
      Option.filter_eq_some_iff, PkiScheme.isSigned_iff, and_imp, hsigned, not_false_eq_true, ne_eq,
      true_implies]

theorem forall_mem_entryNeeds {needs : OwnerCredentials → Credential → List Need} :
    (∀ n ∈ draft.entryNeeds needs, p n) ↔ ∀ role given, (role, given) ∈ draft.lists →
      ∀ o ∈ given, ∀ c ∈ o.credentials, ∀ n ∈ needs o c, p n := by
  simp only [Draft.entryNeeds, List.forall_mem_flatMap, Prod.forall]

theorem forall_mem_certificateNeeds {c : Credential} :
    (∀ n ∈ c.certificateNeeds, p n) ↔ (c.scheme = .x509Sha256 →
      p ⟨c.certificatePem ≠ none, .certificate (.entryMissing c.attestation c.scheme)⟩) := by
  rw [Credential.certificateNeeds, ← PkiScheme.isSigned_iff]
  cases c.scheme.isSigned <;> simp

theorem forall_mem_ifSigning {need : Credential → Need} {isPrimary : Bool} {c : Credential} :
    (∀ n ∈ c.ifSigning need isPrimary, p n) ↔
      (isPrimary = true → c.scheme = .x509Sha256 → p (need c)) := by
  rw [Credential.ifSigning, ← PkiScheme.isSigned_iff]
  cases c.scheme.isSigned <;> cases isPrimary <;> simp

theorem forall_mem_givenKeyNeeds :
    (∀ n ∈ givenKeyNeeds settings sender recipient, p n) ↔ (settings.encrypt = true →
      p ⟨sender.encryptionKeys ≠ none, .encryption .senderKeysMissing⟩ ∧
        p ⟨recipientKeys recipient ≠ none, .encryption .recipientKeysMissing⟩) := by
  unfold givenKeyNeeds
  cases settings.encrypt <;> simp

theorem forall_mem_usedKeyNeeds :
    (∀ n ∈ usedKeyNeeds settings sender recipient, p n) ↔ (settings.encrypt = true →
      ∀ s r, sender.encryptionKeys = some s → recipientKeys recipient = some r →
        ∀ n ∈ sealingNeeds s r, p n) := by
  unfold usedKeyNeeds
  cases settings.encrypt with
  | false => simp
  | true => cases sender.encryptionKeys <;> cases recipientKeys recipient <;> simp

end

theorem canSeal_iff {s r : EncryptionKeys} : CanSeal s r ↔ ∀ n ∈ sealingNeeds s r, n.met := by
  simp only [sealingNeeds, List.forall_mem_cons, List.not_mem_nil, false_implies, implies_true,
    and_true, curveKeyNeed]
  constructor
  · rintro ⟨hrecipient, hsender, pem, key, hpem, hkey⟩
    refine ⟨by simp [hpem], hrecipient, hsender, key, ?_⟩
    rw [hpem]
    exact hkey
  · rintro ⟨hgiven, hrecipient, hsender, key, hkey⟩
    obtain ⟨pem, hpem⟩ := Option.ne_none_iff_exists'.mp hgiven
    rw [hpem] at hkey
    exact ⟨hrecipient, hsender, pem, key, hpem, hkey⟩

namespace Stage

variable {draft : Draft} {sender : Sender} {recipient : Option Recipient} {settings : Settings}

/-- **A stage holds if all its needs are met.** -/
theorem holds_iff (stage : Stage) : stage.Holds draft sender recipient settings ↔
    ∀ n ∈ stage.needs draft sender recipient settings, n.met := by
  cases stage with
  | primaries =>
    rw [needs, List.forall_mem_map, Prod.forall]
    exact Iff.rfl
  | keysGiven => simp only [Holds, needs, forall_mem_givenKeyNeeds]
  | senderCertificate =>
    simp only [Holds, needs, forall_mem_signerNeeds, Credential.senderCertificateNeed]
  | ownerCertificates =>
    simp only [Holds, needs, forall_mem_entryNeeds, forall_mem_certificateNeeds]
  | ownerKeys =>
    simp only [Holds, needs, forall_mem_entryNeeds, forall_mem_ifSigning]
    constructor
    · exact fun h role given hgiven o ho c hc hprimary => h role given hgiven o ho hprimary c hc
    · exact fun h role given hgiven o ho hprimary c hc => h role given hgiven o ho c hc hprimary
  | senderKey => simp only [Holds, needs, forall_mem_signerNeeds, Credential.keyNeed]
  | keysReadable => simp only [Holds, needs, forall_mem_usedKeyNeeds, canSeal_iff]

theorem kind_primariesFault (role : OwnerRole) (given : List OwnerCredentials) :
    (primariesFault role given).kind = .owners := by
  unfold primariesFault
  split <;> rfl

theorem kind_keyNeed (missing : CredentialFault) (c : Credential) :
    (c.keyNeed missing).fault.kind = .key := by
  unfold Credential.keyNeed
  dsimp only
  cases c.privateKeyPem with
  | none => rfl
  | some pem =>
    dsimp only
    cases Rsa.PrivateKey.ofPem pem <;> rfl

theorem kind_curveKeyNeed {α : Type} (read : Except KeyFault α) :
    (curveKeyNeed read).fault.kind = .encryption := by
  cases read <;> rfl

theorem kind_of_mem_sealingNeeds {s r : EncryptionKeys} :
    ∀ n ∈ sealingNeeds s r, n.fault.kind = .encryption := by
  simp only [sealingNeeds, List.forall_mem_cons, List.not_mem_nil, false_implies, implies_true,
    and_true]
  exact ⟨rfl, kind_curveKeyNeed _, kind_curveKeyNeed _, kind_curveKeyNeed _⟩

/-- All faults of a stage are about one thing. -/
theorem kind_of_mem_needs (stage : Stage) :
    ∀ n ∈ stage.needs draft sender recipient settings, n.fault.kind = stage.kind := by
  cases stage with
  | primaries => exact List.forall_mem_map.mpr fun list _ => kind_primariesFault _ _
  | keysGiven => exact forall_mem_givenKeyNeeds.mpr fun _ => ⟨rfl, rfl⟩
  | senderCertificate => exact forall_mem_signerNeeds.mpr fun _ _ _ _ => rfl
  | ownerCertificates =>
    exact forall_mem_entryNeeds.mpr fun _ _ _ _ _ _ _ => forall_mem_certificateNeeds.mpr fun _ => rfl
  | ownerKeys =>
    exact forall_mem_entryNeeds.mpr fun _ _ _ _ _ c _ =>
      forall_mem_ifSigning.mpr fun _ _ => kind_keyNeed _ c
  | senderKey => exact forall_mem_signerNeeds.mpr fun _ c _ _ => kind_keyNeed _ c
  | keysReadable => exact forall_mem_usedKeyNeeds.mpr fun _ _ _ _ _ => kind_of_mem_sealingNeeds

end Stage

/-! ## Owners -/

section

variable {role : OwnerRole} {given : List OwnerCredentials}

theorem checkOwners_of_ne (h : given.countP OwnerCredentials.isPrimary ≠ 1) :
    checkOwners given role = .error (primariesFault role given) := by
  unfold checkOwners primariesFault
  obtain hzero | hmany : given.countP OwnerCredentials.isPrimary = 0 ∨
      ∃ n, given.countP OwnerCredentials.isPrimary = n + 2 := by
    cases hcount : given.countP OwnerCredentials.isPrimary with
    | zero => exact .inl rfl
    | succ n =>
      cases n with
      | zero => exact absurd hcount h
      | succ n => exact .inr ⟨n, rfl⟩
  · rw [hzero]
    rfl
  · obtain ⟨n, hn⟩ := hmany
    rw [hn]
    rfl

theorem requires_checkOwners {p : Prop} (hp : p ↔ given.countP OwnerCredentials.isPrimary = 1) :
    Requires [⟨p, primariesFault role given⟩] (checkOwners given role) :=
  .single (fun h => ⟨(), checkOwners_eq_ok_iff.mpr (hp.mp h)⟩)
    fun h => checkOwners_of_ne fun hone => h (hp.mpr hone)

theorem requires_checkOptionalOwners {p : Prop}
    (hp : p ↔ given = [] ∨ given.countP OwnerCredentials.isPrimary = 1) :
    Requires [⟨p, primariesFault role given⟩] (checkOptionalOwners given role) := by
  refine .single (fun h => ⟨(), checkOptionalOwners_eq_ok_iff.mpr (hp.mp h)⟩) fun h => ?_
  obtain ⟨hsome, hone⟩ := not_or.mp fun h' => h (hp.mpr h')
  rw [checkOptionalOwners, if_neg (by simpa using hsome), checkOwners_of_ne hone]

theorem requires_entryOf (c : Credential) : Requires c.certificateNeeds (entryOf c) := by
  unfold entryOf Credential.certificateNeeds
  cases hpem : c.certificatePem with
  | none =>
    cases c.scheme.isSigned with
    | false => exact .pure _
    | true => exact .stop (fun h => h rfl)
  | some pem =>
    cases c.scheme.isSigned with
    | false => exact .pure _
    | true => exact .single (fun _ => ⟨_, rfl⟩) fun h => absurd nofun h

theorem requires_ownersOf (given : List OwnerCredentials) :
    Requires (given.flatMap fun o => o.credentials.flatMap Credential.certificateNeeds)
      (ownersOf given) :=
  .mapM (fun o => (VerdictOf.mapM requires_entryOf o.credentials).bind_ok) given

/-! ## Signatures -/

variable {digest : String}

theorem Credential.hasKey_of_signs {c : Credential} (h : c.Signs digest) : c.HasKey := by
  obtain ⟨pem, _, hpem, hsignature⟩ := h
  obtain ⟨key, _, hkey, _⟩ := signDigest_eq_ok_iff.mp hsignature
  exact ⟨pem, key, hpem, hkey⟩

theorem Credential.KeySuffices.signs {c : Credential} (hkey : c.KeySuffices) (h : c.HasKey)
    (digest : String) : c.Signs digest := by
  obtain ⟨pem, key, hpem, hread⟩ := h
  exact ⟨pem, _, hpem,
    signDigest_eq_ok_iff.mpr ⟨key, _, hread, (hkey pem key hpem hread).sign?_eq _, rfl⟩⟩

theorem Credential.KeySuffices.of_canSign {c : Credential} {pem : String} {key : Rsa.PrivateKey}
    (hpem : c.privateKeyPem = some pem) (hkey : Rsa.PrivateKey.ofPem pem = .ok key)
    (hsigns : key.CanSign) : c.KeySuffices := by
  intro other found hother hfound
  obtain rfl := Option.some.inj (hpem.symm.trans hother)
  obtain rfl := Except.ok.inj (hkey.symm.trans hfound)
  exact hsigns

/-- With keys that can sign, a signature needs a key that can be read and nothing else. -/
theorem Credential.KeySuffices.signNeed_met_iff {c : Credential} (hkey : c.KeySuffices)
    (missing : CredentialFault) (digest : String) :
    (c.signNeed missing digest).met ↔ (c.keyNeed missing).met :=
  ⟨hasKey_of_signs, fun h => hkey.signs h digest⟩

theorem Credential.KeySuffices.signNeed_fault_eq {c : Credential} (hkey : c.KeySuffices)
    {missing : CredentialFault} (h : ¬ (c.signNeed missing digest).met) :
    (c.signNeed missing digest).fault = (c.keyNeed missing).fault := by
  unfold signNeed keyNeed
  cases hpem : c.privateKeyPem with
  | none => rfl
  | some pem =>
    cases hread : Rsa.PrivateKey.ofPem pem with
    | ok key => exact absurd (hkey.signs ⟨pem, key, hpem, hread⟩ digest) h
    | error cause =>
      dsimp only
      rw [hread, signDigest, hread]
      rfl

/-- Whoever signs a digest needs a signature of it and nothing else. -/
theorem requires_signDigest (missing : CredentialFault) (c : Credential) (digest : String) :
    Requires [c.signNeed missing digest]
      (match c.privateKeyPem with
      | none => .error (.key missing)
      | some pem => signDigest pem digest) := by
  unfold Credential.signNeed
  cases hpem : c.privateKeyPem with
  | none =>
    refine .stop ?_
    rintro ⟨pem, _, hsome, _⟩
    rw [hpem] at hsome
    cases hsome
  | some pem =>
    dsimp only
    cases hsignature : signDigest pem digest with
    | ok signature =>
      exact .single (fun _ => ⟨signature, rfl⟩) fun h => absurd ⟨pem, signature, hpem, hsignature⟩ h
    | error fault =>
      refine .stop ?_
      rintro ⟨pem', signature, hsome, hsigned⟩
      obtain rfl := Option.some.inj (hpem.symm.trans hsome)
      cases hsignature.symm.trans hsigned

theorem requires_entryRecord (isPrimary : Bool) (owner : Nat) (place : Credential × Nat) :
    Requires (place.1.ifSigning (Credential.entrySignNeed digest) isPrimary)
      (entryRecord role digest isPrimary owner place) := by
  unfold entryRecord Credential.ifSigning entrySignature
  cases place.1.scheme.isSigned with
  | false => exact .pure _
  | true =>
    cases isPrimary with
    | false => exact .pure _
    | true => exact (requires_signDigest _ place.1 digest).bind_ok

/-- Members of a list with their places. -/
theorem flatMap_zipIdx {α β : Type} (l : List α) (f : α → List β) :
    (l.zipIdx.flatMap fun place => f place.1) = l.flatMap f := by
  rw [← List.flatMap_map, List.zipIdx_map_fst]

theorem requires_ownerRecords (place : OwnerCredentials × Nat) :
    Requires (place.1.credentials.flatMap
        (Credential.ifSigning (Credential.entrySignNeed digest) place.1.isPrimary))
      (ownerRecords role digest place) := by
  rw [← flatMap_zipIdx]
  exact (VerdictOf.mapM (requires_entryRecord place.1.isPrimary place.2) _).bind_ok

theorem requires_signatureRecords (given : List OwnerCredentials) :
    Requires (given.flatMap fun o => o.credentials.flatMap
        (Credential.ifSigning (Credential.entrySignNeed digest) o.isPrimary))
      (signatureRecords given role digest) := by
  rw [← flatMap_zipIdx]
  exact (VerdictOf.mapM requires_ownerRecords _).bind_ok

/-- The needs of all entries are those of the credentials that sign. -/
theorem flatMap_ifSigning (need : Credential → Need)
    (lists : List (OwnerRole × List OwnerCredentials)) :
    (lists.flatMap fun list => list.2.flatMap fun o =>
      o.credentials.flatMap (Credential.ifSigning need o.isPrimary)) =
      (signingCredentials lists).map need := by
  have hcredentials : ∀ (isPrimary : Bool) (cs : List Credential),
      cs.flatMap (Credential.ifSigning need isPrimary) =
        (cs.filter fun c => c.scheme.isSigned && isPrimary).map need := by
    intro isPrimary cs
    induction cs with
    | nil => rfl
    | cons c cs ih =>
      rw [List.flatMap_cons, ih, Credential.ifSigning, List.filter_cons]
      split <;> rfl
  simp only [signingCredentials, List.map_flatMap, hcredentials]

/-- **Owners need their signatures and nothing else**: what they have signed can be put into a body that
has their entries. -/
theorem requires_attestOwners {body : MessageBody} {lists : List (OwnerRole × List OwnerCredentials)}
    (hbody : body.HasOwnersOf lists) :
    Requires ((signingCredentials lists).map (Credential.entrySignNeed body.attestationDigest))
      (attestOwners body lists) := by
  -- attaching what was signed is a step of its own, without needs
  rw [← flatMap_ifSigning, ← List.append_nil (lists.flatMap _)]
  exact (VerdictOf.mapM (fun list => requires_signatureRecords list.2) lists).bind
    fun found hfound => .of_exists (exists_attach_of_records hbody hfound)

/-- Owners whose keys can sign need these keys and nothing else. -/
theorem requires_attestOwners_of_keys {body : MessageBody}
    {lists : List (OwnerRole × List OwnerCredentials)} (hbody : body.HasOwnersOf lists)
    (hkeys : ∀ c ∈ signingCredentials lists, c.KeySuffices) :
    Requires (lists.flatMap fun list => list.2.flatMap fun o =>
        o.credentials.flatMap (Credential.ifSigning Credential.entryKeyNeed o.isPrimary))
      (attestOwners body lists) := by
  rw [flatMap_ifSigning]
  exact (requires_attestOwners hbody).map_congr
    (fun c hc => (hkeys c hc).signNeed_met_iff _ _)
    fun c hc => (hkeys c hc).signNeed_fault_eq

end

/-! ## Keys for encryption -/

section

variable {clock : Clock} {settings : Settings} {sender : Sender} {recipient : Option Recipient}

theorem requires_encryptionKeys : Requires (givenKeyNeeds settings sender recipient)
    (encryptionKeys settings sender recipient) := by
  unfold givenKeyNeeds encryptionKeys recipientKeys
  cases settings.encrypt with
  | false => exact .pure _
  | true =>
    cases sender.encryptionKeys with
    | none => exact .stop fun h => h rfl
    | some s =>
      refine .next nofun ?_
      cases recipient.bind Recipient.encryptionKeys with
      | none => exact .stop fun h => h rfl
      | some r => exact .next nofun (VerdictOf.pure _)

theorem requires_withKey {α : Type} (read : Except KeyFault α) :
    Requires [curveKeyNeed read] (liftSealing (Sealing.withKey read)) := by
  cases read with
  | error fault => exact .stop fun ⟨_, h⟩ => (nomatch h)
  | ok key => exact .single (fun _ => ⟨key, rfl⟩) fun h => absurd ⟨key, rfl⟩ h

theorem liftSealing_eq_ok {α : Type} {x : Except SealingFault α} {a : α}
    (h : liftSealing x = .ok a) : x = .ok a := by
  cases x with
  | error fault => cases h
  | ok b =>
    cases h
    rfl

theorem liftSealing_bind {α β : Type} (x : Except SealingFault α) (f : α → Except SealingFault β) :
    liftSealing (x >>= f) = liftSealing x >>= fun a => liftSealing (f a) := by
  cases x <;> rfl

theorem requires_encryptWithPems (message : Bytes) (recipientPem senderPem secretPem : String) :
    Requires [curveKeyNeed (PublicKey.ofPem recipientPem), curveKeyNeed (PublicKey.ofPem senderPem),
        curveKeyNeed (SecretKey.ofPem secretPem)]
      (liftSealing (Sealing.encryptWithPems message recipientPem senderPem secretPem)) := by
  unfold Sealing.encryptWithPems
  rw [liftSealing_bind]
  refine (requires_withKey _).bind fun recipient _ => ?_
  rw [liftSealing_bind]
  refine (requires_withKey _).bind fun sender _ => ?_
  rw [liftSealing_bind]
  exact (requires_withKey _).bind_ok

/-- What was encrypted can be signed: the private key has been read before. -/
theorem requires_encrypt (e : PlainEnvelope) (s r : EncryptionKeys) :
    Requires (sealingNeeds s r) (e.encrypt clock s r) := by
  unfold PlainEnvelope.encrypt sealingNeeds
  cases s.privateKeyPem with
  | none => exact .stop fun h => h rfl
  | some secretPem =>
    refine .next nofun ?_
    refine (requires_encryptWithPems _ _ _ _).bind fun payload hpayload => ?_
    obtain ⟨_, _, secret, _, _, hsecret, _⟩ :=
      Sealing.encryptWithPems_eq_ok (liftSealing_eq_ok hpayload)
    refine .of_exists ⟨_, bind_eq_ok_iff.mpr ⟨secret, ?_, rfl⟩⟩
    rw [Option.getD_some] at hsecret
    rw [hsecret]
    rfl

/-- What was given for encryption is used in the end. -/
theorem requires_finish {keys : Option KeyExchange} (body : MessageBody)
    (hkeys : encryptionKeys settings sender recipient = .ok keys) :
    Requires (usedKeyNeeds settings sender recipient) (finish clock body settings keys) := by
  cases keys with
  | none =>
    have hplain := isSome_of_encryptionKeys hkeys
    rw [usedKeyNeeds, if_neg (by simp [← hplain])]
    exact .pure _
  | some k =>
    obtain ⟨hencrypt, hsender, hrecipient⟩ := encryptionKeys_eq_ok hkeys rfl
    rw [usedKeyNeeds, if_pos hencrypt, hsender, hrecipient]
    exact (requires_encrypt _ k.sender k.recipient).bind_ok

end

/-! ## Messages -/

namespace Draft

variable {draft : Draft} {clock : Clock} {sender : Sender} {recipient : Option Recipient}
  {settings : Settings}

theorem requires_checkPrimaries :
    Requires (Stage.primaries.needs draft sender recipient settings) draft.checkPrimaries := by
  cases draft with
  | paymentRequest p => exact requires_checkOwners (by simp [messageType, MessageType.requiredRole])
  | _ p =>
    refine (requires_checkOwners ?_).bind fun _ _ => requires_checkOptionalOwners ?_
    · simp [messageType, MessageType.requiredRole]
    · simp [messageType, MessageType.requiredRole, or_comm]

/-- A step of a sender that signs; other senders have nothing to do. -/
theorem requires_signer {α : Type} {need : Credential → Need} {x : Except Fault α}
    (hpayment : draft.messageType = .payment → ∃ a, x = .ok a)
    (hunsigned : draft.messageType ≠ .payment → sender.signingCredential? = none → ∃ a, x = .ok a)
    (hsigned : draft.messageType ≠ .payment → ∀ c, sender.signingCredential? = some c →
      Requires [need c] x) : Requires (draft.signerNeeds sender need) x := by
  unfold signerNeeds
  by_cases hkind : draft.messageType = .payment
  · rw [if_pos hkind]
    exact .of_exists (hpayment hkind)
  · rw [if_neg hkind]
    cases hc : sender.signingCredential? with
    | none => exact .of_exists (hunsigned hkind hc)
    | some c => exact hsigned hkind c hc

theorem requires_identity :
    Requires (draft.signerNeeds sender Credential.senderCertificateNeed)
      (draft.identity sender) := by
  unfold identity senderIdentity
  refine requires_signer (fun hkind => ?_) (fun hkind hc => ?_) fun hkind c hc => ?_
  · rw [if_pos hkind]
    exact ⟨_, rfl⟩
  · rw [if_neg hkind, hc]
    exact ⟨_, rfl⟩
  · rw [if_neg hkind, hc]
    unfold Credential.senderCertificateNeed
    dsimp only
    cases c.certificatePem with
    | none => exact .stop fun h => h rfl
    | some pem => exact .next nofun (VerdictOf.pure _)

theorem requires_sign (attested : MessageBody) (hkeys : draft.KeysSuffice sender) :
    Requires (draft.signerNeeds sender (Credential.keyNeed .senderPrivateKeyMissing))
      (draft.sign sender attested) := by
  unfold sign attestSender
  refine requires_signer (fun hkind => ?_) (fun hkind hc => ?_) fun hkind c hc => ?_
  · rw [if_pos hkind]
    exact ⟨_, rfl⟩
  · rw [if_neg hkind, hc]
    exact ⟨_, rfl⟩
  · rw [if_neg hkind, hc]
    have hsuffices := hkeys.sender hkind c hc
    have hneed : Requires ([c].map (Credential.signNeed .senderPrivateKeyMissing _)) _ :=
      (requires_signDigest .senderPrivateKeyMissing c attested.senderDigest).bind_ok
        (f := attested.withSenderSignature)
    have hsign : Requires ([c].map (Credential.keyNeed .senderPrivateKeyMissing)) _ :=
      hneed.map_congr
        (List.forall_mem_singleton.mpr (hsuffices.signNeed_met_iff _ _))
        (List.forall_mem_singleton.mpr hsuffices.signNeed_fault_eq)
    dsimp only
    cases hpem : c.privateKeyPem with
    | none =>
      rw [hpem] at hsign
      exact hsign
    | some pem =>
      rw [hpem] at hsign
      exact hsign

theorem requires_owners :
    Requires (draft.entryNeeds fun _ c => c.certificateNeeds) draft.owners := by
  cases draft with
  | paymentRequest p => exact (requires_ownersOf p.beneficiaries).bind fun _ _ => .pure _
  | _ p =>
    exact (requires_ownersOf p.originators).bind fun _ _ =>
      (requires_ownersOf p.beneficiaries).bind fun _ _ => .pure _

/-- The body of a draft has the owners that were given. -/
theorem hasOwnersOf_body {owners : OwnerRole → List Owner} (howners : draft.owners = .ok owners)
    (identity : SenderIdentity) :
    (draft.body recipient owners identity).HasOwnersOf draft.lists := by
  intro role given hgiven
  refine ⟨owners role, ?_, ownersOf_of_owners howners role given hgiven⟩
  cases draft with
  | paymentRequest p =>
    cases List.mem_singleton.mp hgiven
    rfl
  | _ p => cases role <;> rfl

/-- **Creating a message goes through the needs of all stages**, with keys that can sign. -/
theorem verdict_create (hkeys : draft.KeysSuffice sender) :
    Requires (Stage.all.flatMap (Stage.needs draft sender recipient settings))
      (draft.create clock sender recipient settings) := by
  -- one step for each stage, in the order of `Stage.all`
  rw [create_eq_steps]
  refine requires_checkPrimaries.bind fun _ _ => ?_
  refine requires_encryptionKeys.bind fun keys hgiven => ?_
  refine requires_identity.bind fun identity _ => ?_
  refine requires_owners.bind fun owners howners => ?_
  refine (requires_attestOwners_of_keys (hasOwnersOf_body howners identity) hkeys.owners).bind
    fun attested _ => ?_
  refine (requires_sign attested hkeys).bind fun signed _ => ?_
  show Requires (usedKeyNeeds settings sender recipient ++ []) _
  rw [List.append_nil]
  exact requires_finish signed hgiven

end Draft

/-- All stages hold if all needs are met. -/
theorem Stage.forall_holds_iff {draft : Draft} {sender : Sender} {recipient : Option Recipient}
    {settings : Settings} : (∀ stage : Stage, stage.Holds draft sender recipient settings) ↔
      ∀ n ∈ all.flatMap (needs draft sender recipient settings), n.met := by
  simp only [holds_iff, List.mem_flatMap]
  constructor
  · rintro h n ⟨stage, _, hn⟩
    exact h stage n hn
  · intro h stage n hn
    exact h n ⟨stage, stage.mem_all, hn⟩

/-- What the fault of a result is about. -/
theorem exists_error_kind_iff {α : Type} {x : Except Fault α} {kind : FaultKind} :
    (∃ fault, x = .error fault ∧ fault.kind = kind) ↔
      (x.map fun _ => ()).mapError Fault.kind = .error kind := by
  cases x with
  | ok a => exact ⟨fun ⟨_, h, _⟩ => (nomatch h), nofun⟩
  | error fault =>
    constructor
    · rintro ⟨_, ⟨⟩, rfl⟩
      rfl
    · intro h
      exact ⟨fault, rfl, Except.error.inj h⟩

/-- **A message is created exactly if every stage holds, and the first one that does not gives the
fault.** What the fault is about is known from the stage alone; the fault itself is that of the first
need of the stage that is not met. The keys of owners and sender can sign, if they can be read: a key that
cannot lets the operation break off. -/
theorem create_decides {draft : Draft} {sender : Sender} (hkeys : draft.KeysSuffice sender)
    (clock : Clock) (recipient : Option Recipient) (settings : Settings) :
    ((∃ octets, draft.create clock sender recipient settings = .ok octets) ↔
      ∀ stage : Stage, stage.Holds draft sender recipient settings) ∧
    (∀ kind, (∃ fault, draft.create clock sender recipient settings = .error fault ∧
        fault.kind = kind) ↔
      ∃ before stage after, Stage.all = before ++ stage :: after ∧
        (∀ s ∈ before, s.Holds draft sender recipient settings) ∧
        ¬ stage.Holds draft sender recipient settings ∧ stage.kind = kind) ∧
    ∀ fault, draft.create clock sender recipient settings = .error fault ↔
      ∃ before need after,
        Stage.all.flatMap (Stage.needs draft sender recipient settings) = before ++ need :: after ∧
        (∀ n ∈ before, n.met) ∧ ¬ need.met ∧ need.fault = fault := by
  have hneeds : Requires (Stage.all.flatMap (Stage.needs draft sender recipient settings))
      (draft.create clock sender recipient settings) := Draft.verdict_create hkeys
  have hstages := Verdict.group Stage.holds_iff Stage.kind_of_mem_needs hneeds
  refine ⟨?_, fun kind => ?_, hneeds.eq_error_iff⟩
  · rw [Stage.forall_holds_iff, hneeds.exists_eq_ok_iff]
  · rw [exists_error_kind_iff, hstages.eq_error_iff]

theorem sampleCredential_keySuffices : sampleCredential.KeySuffices :=
  .of_canSign rfl ofPem_sampleKeyPem sampleKey_isHalfOf.canSign

theorem sampleDraft_keysSuffice : sampleDraft.KeysSuffice sampleSender where
  owners c hc := by
    obtain rfl := List.mem_singleton.mp (show c ∈ [sampleCredential] from hc)
    exact sampleCredential_keySuffices
  sender _ c hc := by
    cases hc
    exact sampleCredential_keySuffices

/-- The sample invoice request is created, so all stages hold. It cannot be encrypted to nobody. -/
theorem sampleDraft_passes_stages :
    sampleDraft.KeysSuffice sampleSender ∧
      (∃ octets, sampleDraft.create ⟨0⟩ sampleSender (some sampleRecipient) {} = .ok octets) ∧
      (∀ stage : Stage, stage.Holds sampleDraft sampleSender (some sampleRecipient) {}) ∧
      ∃ fault, sampleDraft.create ⟨0⟩ sampleSender none { encrypt := true } = .error fault ∧
        fault.kind = .encryption := by
  obtain ⟨ofOwner, howner, _⟩ := exists_signDigest (sampleSigned "" "").attestationDigest
  obtain ⟨ofSender, hsender, _⟩ := exists_signDigest (sampleSigned ofOwner "").senderDigest
  have hcreate := create_sampleDraft {} rfl howner hsender rfl
  have hstages := (create_decides sampleDraft_keysSuffice ⟨0⟩ (some sampleRecipient) {}).1.mp
    ⟨_, hcreate⟩
  refine ⟨sampleDraft_keysSuffice, ⟨_, hcreate⟩, hstages, ?_⟩
  -- the owners are as before, and the recipient's keys are the first that is missing
  have hprimaries : Stage.primaries.Holds sampleDraft sampleSender none { encrypt := true } :=
    hstages .primaries
  have hkeys : ¬ Stage.keysGiven.Holds sampleDraft sampleSender none { encrypt := true } :=
    fun h => (h rfl).2 rfl
  exact ((create_decides sampleDraft_keysSuffice ⟨0⟩ none { encrypt := true }).2.1 .encryption).mpr
    ⟨[.primaries], .keysGiven, _, rfl, List.forall_mem_singleton.mpr hprimaries, hkeys, rfl⟩

end AttestedPayments
