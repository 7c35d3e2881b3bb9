import AttestedPayments.Exchange.Creating
import AttestedPayments.Proofs.Exchange.Attaching
import AttestedPayments.Proofs.Exchange.Checks

/-!
# What signing leaves in a body

* `Credential.Yields` — an entry is what a credential states, with the signature that it gives.
* `MessageBody.Backed` — the lists of owners of a body were made of the given credentials;
  `MessageBody.HasOwnersOf` — what was made of the given credentials is in the body.
* `Credential.KeyFits` — the private key of a credential belongs to the certificate beside it.

Principal results: `attestOwners_yields` — every entry of a body that its owners signed is what its own
credential yields; `checkAttestations_of_attested` and `checkSender_of_attested` — what was signed with
fitting keys of trusted certificates is accepted.
-/

set_option autoImplicit false

namespace AttestedPayments

variable {digest : String} {isPrimary : Bool}

/-! ## Entries -/

/-- An entry is what a credential states. If the scheme has signatures then the certificate is that of
the credential and the signature is the one that the credential gives; otherwise there is none. -/
structure Credential.Yields (c : Credential) (isPrimary : Bool) (digest : String)
    (entry : OwnerEntry) : Prop where
  attestation_eq : entry.attestation = c.attestation
  scheme_eq : entry.scheme = c.scheme
  certificate_eq : c.scheme.isSigned = true → c.certificatePem = some entry.certificatePem
  signature_eq : c.scheme.isSigned = true →
    entrySignature isPrimary c digest = .ok entry.signature
  unsigned : c.scheme.isSigned = false → entry.signature = ""

theorem entryOf_eq_ok {c : Credential} {entry : OwnerEntry} (h : entryOf c = .ok entry) :
    entry.attestation = c.attestation ∧ entry.scheme = c.scheme ∧ entry.signature = "" ∧
      (c.scheme.isSigned = true → c.certificatePem = some entry.certificatePem) := by
  unfold entryOf at h
  split at h
  · rename_i pem _ hpem
    cases h
    exact ⟨rfl, rfl, rfl, fun _ => hpem⟩
  · rename_i hsigned
    cases h
    exact ⟨rfl, rfl, rfl, fun h => absurd (hsigned.symm.trans h) (by decide)⟩
  · cases h

theorem ownersOf_eq_ok {given : List OwnerCredentials} {owners : List Owner}
    (h : ownersOf given = .ok owners) {i : Nat} {owner : Owner} (howner : owners[i]? = some owner) :
    ∃ o : OwnerCredentials, given[i]? = some o ∧ owner.isPrimary = o.isPrimary ∧
      ∀ (j : Nat) (entry : OwnerEntry), owner.entries[j]? = some entry →
        ∃ c, o.credentials[j]? = some c ∧ entryOf c = .ok entry := by
  obtain ⟨o, ho, h⟩ := getElem?_of_mapM h howner
  obtain ⟨entries, hentries, h⟩ := bind_eq_ok_iff.mp h
  cases h
  exact ⟨o, ho, rfl, fun j entry hentry => getElem?_of_mapM hentries hentry⟩

/-! ## Records -/

theorem entryRecord_eq_ok_some {role : OwnerRole} {owner entry : Nat} {c : Credential}
    {r : SignatureRecord} :
    entryRecord role digest isPrimary owner (c, entry) = .ok (some r) ↔
      r.Addresses role owner entry ∧ c.scheme.isSigned = true ∧ r.attestation = c.attestation ∧
        entrySignature isPrimary c digest = .ok r.signature := by
  unfold entryRecord
  by_cases hsigned : c.scheme.isSigned = true
  · rw [if_pos hsigned, bind_eq_ok_iff]
    constructor
    · rintro ⟨signature, hsignature, h⟩
      cases h
      exact ⟨⟨rfl, rfl, rfl⟩, hsigned, rfl, hsignature⟩
    · obtain ⟨role', owner', entry', attestation, signature⟩ := r
      rintro ⟨⟨rfl, rfl, rfl⟩, _, rfl, hsignature⟩
      exact ⟨signature, hsignature, rfl⟩
  · rw [if_neg hsigned]
    constructor
    · intro h
      cases h
    · rintro ⟨_, h, _⟩
      exact absurd h hsigned

theorem mem_ownerRecords {role : OwnerRole} {o : OwnerCredentials} {owner : Nat}
    {records : List SignatureRecord} (h : ownerRecords role digest (o, owner) = .ok records)
    (r : SignatureRecord) :
    r ∈ records ↔ r.role = role ∧ r.owner = owner ∧
      ∃ c, o.credentials[r.entry]? = some c ∧ c.scheme.isSigned = true ∧
        r.attestation = c.attestation ∧ entrySignature o.isPrimary c digest = .ok r.signature := by
  obtain ⟨found, hfound, h⟩ := bind_eq_ok_iff.mp h
  cases h
  rw [List.mem_filterMap]
  constructor
  · rintro ⟨_, hmem, rfl⟩
    obtain ⟨⟨c, entry⟩, hplace, hr⟩ := (mem_iff_of_mapM hfound _).mp hmem
    obtain ⟨⟨hrole, howner, hentry⟩, hsigned, hattestation, hsignature⟩ :=
      entryRecord_eq_ok_some.mp hr
    rw [List.mk_mem_zipIdx_iff_getElem?, ← hentry] at hplace
    exact ⟨hrole, howner, c, hplace, hsigned, hattestation, hsignature⟩
  · rintro ⟨hrole, howner, c, hplace, hsigned, hattestation, hsignature⟩
    refine ⟨some r, (mem_iff_of_mapM hfound _).mpr ⟨(c, r.entry), ?_, ?_⟩, rfl⟩
    · exact List.mk_mem_zipIdx_iff_getElem?.mpr hplace
    · exact entryRecord_eq_ok_some.mpr ⟨⟨hrole, howner, rfl⟩, hsigned, hattestation, hsignature⟩

/-- There is one record for every entry whose scheme has signatures, and it is made with the
credential of that entry. -/
theorem mem_signatureRecords {given : List OwnerCredentials} {role : OwnerRole}
    {records : List SignatureRecord} (h : signatureRecords given role digest = .ok records)
    (r : SignatureRecord) :
    r ∈ records ↔ r.role = role ∧ ∃ o, given[r.owner]? = some o ∧
      ∃ c, o.credentials[r.entry]? = some c ∧ c.scheme.isSigned = true ∧
        r.attestation = c.attestation ∧ entrySignature o.isPrimary c digest = .ok r.signature := by
  obtain ⟨found, hfound, h⟩ := bind_eq_ok_iff.mp h
  cases h
  rw [List.mem_flatten]
  constructor
  · rintro ⟨list, hlist, hr⟩
    obtain ⟨⟨o, owner⟩, hplace, hmade⟩ := (mem_iff_of_mapM hfound _).mp hlist
    obtain ⟨hrole, howner, hc⟩ := (mem_ownerRecords hmade r).mp hr
    rw [List.mk_mem_zipIdx_iff_getElem?, ← howner] at hplace
    exact ⟨hrole, o, hplace, hc⟩
  · rintro ⟨hrole, o, hplace, hc⟩
    have hmem := List.mk_mem_zipIdx_iff_getElem?.mpr hplace
    -- all owners have their records, so this one has
    obtain ⟨list, hlist, hmade⟩ := exists_of_mapM hfound hmem
    exact ⟨list, hlist, (mem_ownerRecords hmade r).mpr ⟨hrole, rfl, hc⟩⟩

/-- Every entry whose scheme has signatures could be signed. -/
theorem exists_entrySignature {given : List OwnerCredentials} {role : OwnerRole}
    {records : List SignatureRecord} (h : signatureRecords given role digest = .ok records)
    {i j : Nat} {o : OwnerCredentials} {c : Credential} (ho : given[i]? = some o)
    (hc : o.credentials[j]? = some c) (hsigned : c.scheme.isSigned = true) :
    ∃ signature, entrySignature o.isPrimary c digest = .ok signature := by
  obtain ⟨found, hfound, _⟩ := bind_eq_ok_iff.mp h
  obtain ⟨list, _, hmade⟩ := exists_of_mapM hfound (List.mk_mem_zipIdx_iff_getElem?.mpr ho)
  obtain ⟨entries, hentries, _⟩ := bind_eq_ok_iff.mp hmade
  obtain ⟨_, _, hr⟩ := exists_of_mapM hentries (List.mk_mem_zipIdx_iff_getElem?.mpr hc)
  unfold entryRecord at hr
  rw [if_pos hsigned] at hr
  obtain ⟨signature, hsignature, _⟩ := bind_eq_ok_iff.mp hr
  exact ⟨signature, hsignature⟩

/-- The records of a list leave at a place the signature that its credential gives. -/
theorem lastSignature_signatureRecords {given : List OwnerCredentials} {role : OwnerRole}
    {records : List SignatureRecord} (h : signatureRecords given role digest = .ok records)
    {i j : Nat} {o : OwnerCredentials} {c : Credential} (ho : given[i]? = some o)
    (hc : o.credentials[j]? = some c) (hsigned : c.scheme.isSigned = true) (s : String) :
    entrySignature o.isPrimary c digest = .ok (lastSignature records role i j s) := by
  obtain ⟨signature, hsignature⟩ := exists_entrySignature h ho hc hsigned
  have hex : ∃ r ∈ records, r.Addresses role i j := by
    refine ⟨⟨role, i, j, c.attestation, signature⟩, ?_, rfl, rfl, rfl⟩
    exact (mem_signatureRecords h _).mpr ⟨rfl, o, ho, c, hc, hsigned, rfl, hsignature⟩
  have hall : ∀ r ∈ records, r.Addresses role i j → r.signature = signature := by
    rintro r hr ⟨-, rfl, rfl⟩
    obtain ⟨-, o', ho', c', hc', -, -, hmade⟩ := (mem_signatureRecords h r).mp hr
    obtain rfl := Option.some.inj (ho.symm.trans ho')
    obtain rfl := Option.some.inj (hc.symm.trans hc')
    exact Except.ok.inj (hmade.symm.trans hsignature)
  rw [lastSignature_of_forall hex hall, hsignature]

/-! ## Records of several lists -/

section

variable {lists before later : List (OwnerRole × List OwnerCredentials)}
  {found : List (List SignatureRecord)} {role : OwnerRole} {i j : Nat}

/-- Every record was made with a credential of a list of its role. -/
theorem exists_credential_of_mem
    (hfound : lists.mapM (fun (role, owners) => signatureRecords owners role digest) = .ok found)
    {r : SignatureRecord} (hr : r ∈ found.flatten) :
    ∃ given, (r.role, given) ∈ lists ∧ ∃ o, given[r.owner]? = some o ∧
      ∃ c, o.credentials[r.entry]? = some c ∧ c.scheme.isSigned = true ∧
        r.attestation = c.attestation ∧ entrySignature o.isPrimary c digest = .ok r.signature := by
  obtain ⟨own, hown, hr⟩ := List.mem_flatten.mp hr
  obtain ⟨⟨role, given⟩, hmem, hmade⟩ := (mem_iff_of_mapM hfound own).mp hown
  obtain ⟨rfl, hc⟩ := (mem_signatureRecords hmade r).mp hr
  exact ⟨given, hmem, hc⟩

/-- A place for whose entry no signatures are made keeps what it has. -/
theorem lastSignature_of_unsigned
    (hfound : lists.mapM (fun (role, owners) => signatureRecords owners role digest) = .ok found)
    (h : ∀ given, (role, given) ∈ lists → ∀ o, given[i]? = some o →
      ∀ c, o.credentials[j]? = some c → c.scheme.isSigned = false) (s : String) :
    lastSignature found.flatten role i j s = s := by
  refine lastSignature_of_forall_not (fun r hr haddressed => ?_) s
  obtain ⟨rfl, rfl, rfl⟩ := haddressed
  obtain ⟨given, hmem, o, ho, c, hc, hsigned, -⟩ := exists_credential_of_mem hfound hr
  rw [h given hmem o ho c hc] at hsigned
  cases hsigned

/-- Of several lists of a role the last one counts. -/
theorem lastSignature_of_signed {given : List OwnerCredentials} {o : OwnerCredentials}
    {c : Credential}
    (hfound : (before ++ (role, given) :: later).mapM
      (fun (role, owners) => signatureRecords owners role digest) = .ok found)
    (hlater : ∀ list ∈ later, list.1 ≠ role) (ho : given[i]? = some o)
    (hc : o.credentials[j]? = some c) (hsigned : c.scheme.isSigned = true) (s : String) :
    entrySignature o.isPrimary c digest = .ok (lastSignature found.flatten role i j s) := by
  rw [List.mapM_append, List.mapM_cons] at hfound
  obtain ⟨first, -, hfound⟩ := bind_eq_ok_iff.mp hfound
  obtain ⟨rest, hrest, hfound⟩ := bind_eq_ok_iff.mp hfound
  obtain ⟨own, hown, hrest⟩ := bind_eq_ok_iff.mp hrest
  obtain ⟨last, hlast, hrest⟩ := bind_eq_ok_iff.mp hrest
  cases hfound
  cases hrest
  -- records of later lists are for another role, and those of earlier ones are replaced
  have hnone : ∀ r ∈ last.flatten, ¬ r.Addresses role i j := by
    intro r hr haddressed
    obtain ⟨given', hmem, -⟩ := exists_credential_of_mem hlast hr
    exact hlater _ hmem haddressed.1
  rw [List.flatten_append, List.flatten_cons, lastSignature_append, lastSignature_append,
    lastSignature_of_forall_not hnone]
  exact lastSignature_signatureRecords hown ho hc hsigned _

end

/-! ## Bodies -/

/-- Each list of owners was made of the credentials that are given for its role. -/
structure MessageBody.Backed (body : MessageBody)
    (lists : List (OwnerRole × List OwnerCredentials)) : Prop where
  given : ∀ role owners, body.owners? role = some owners →
    ∃ given, (role, given) ∈ lists ∧ ownersOf given = .ok owners
  unique : ∀ role given other, (role, given) ∈ lists → (role, other) ∈ lists → given = other

/-- A body has the owners of all given lists, each in its role. -/
def MessageBody.HasOwnersOf (body : MessageBody)
    (lists : List (OwnerRole × List OwnerCredentials)) : Prop :=
  ∀ role given, (role, given) ∈ lists →
    ∃ owners, body.owners? role = some owners ∧ ownersOf given = .ok owners

variable {body after : MessageBody} {lists : List (OwnerRole × List OwnerCredentials)}

/-- Owners who sign a body leave everything as it is but their signatures. -/
theorem exists_records (h : attestOwners body lists = .ok after) :
    ∃ records : List SignatureRecord,
      after = body.mapOwners fun role => resign (lastSignature records role) := by
  obtain ⟨found, _, hattach⟩ := bind_eq_ok_iff.mp h
  exact ⟨found.flatten, MessageBody.attach_eq_ok hattach⟩

/-- Owners have the entries of their credentials at their places. -/
theorem exists_entry_of_ownersOf {given : List OwnerCredentials} {owners : List Owner}
    (h : ownersOf given = .ok owners) {i j : Nat} {o : OwnerCredentials} {c : Credential}
    (ho : given[i]? = some o) (hc : o.credentials[j]? = some c) :
    ∃ owner entry, owners[i]? = some owner ∧ owner.entries[j]? = some entry ∧
      entryOf c = .ok entry := by
  obtain ⟨owner, howner, hof⟩ := exists_getElem?_of_mapM h ho
  obtain ⟨entries, hentries, hof⟩ := bind_eq_ok_iff.mp hof
  cases hof
  obtain ⟨entry, hentry, hmade⟩ := exists_getElem?_of_mapM hentries hc
  exact ⟨_, entry, howner, hentry, hmade⟩

/-- **What owners have signed can be put into their body**: there is an entry for each signature. -/
theorem exists_attach_of_records {found : List (List SignatureRecord)}
    (hbody : body.HasOwnersOf lists)
    (hfound : lists.mapM (fun (role, owners) => signatureRecords owners role digest) = .ok found) :
    ∃ after, body.attach found.flatten = .ok after := by
  refine MessageBody.exists_attach fun r hr => ?_
  obtain ⟨given, hmem, o, ho, c, hc, -, hattestation, -⟩ := exists_credential_of_mem hfound hr
  obtain ⟨owners, howners, hof⟩ := hbody _ _ hmem
  obtain ⟨owner, entry, howner, hentry, hmade⟩ := exists_entry_of_ownersOf hof ho hc
  exact ⟨owners, owner, entry, howners, howner, hentry,
    (entryOf_eq_ok hmade).1.trans hattestation.symm⟩

/-- **Every entry of a body that its owners signed is what its own credential yields.** -/
theorem attestOwners_yields (hbacked : body.Backed lists) (h : attestOwners body lists = .ok after)
    {role : OwnerRole} {owners : List Owner} (howners : after.owners? role = some owners) {i : Nat}
    {owner : Owner} (howner : owners[i]? = some owner) :
    ∃ given o, (role, given) ∈ lists ∧ given[i]? = some o ∧ owner.isPrimary = o.isPrimary ∧
      ∀ (j : Nat) (entry : OwnerEntry), owner.entries[j]? = some entry →
        ∃ c, o.credentials[j]? = some c ∧ c.Yields o.isPrimary body.attestationDigest entry := by
  obtain ⟨found, hfound, hattach⟩ := bind_eq_ok_iff.mp h
  rw [MessageBody.attach_eq_ok hattach, MessageBody.owners?_mapOwners, Option.map_eq_some_iff]
    at howners
  obtain ⟨unsigned, hunsigned, rfl⟩ := howners
  obtain ⟨old, hold, hprimary, hentries⟩ := getElem?_resign_eq_some howner
  obtain ⟨given, hgiven, hmade⟩ := hbacked.given role unsigned hunsigned
  obtain ⟨o, ho, hoprimary, hcredentials⟩ := ownersOf_eq_ok hmade hold
  refine ⟨given, o, hgiven, ho, hprimary.trans hoprimary, fun j entry hentry => ?_⟩
  obtain ⟨blank, hblank, rfl⟩ := hentries j entry hentry
  obtain ⟨c, hc, hof⟩ := hcredentials j blank hblank
  obtain ⟨hattestation, hscheme, hempty, hcertificate⟩ := entryOf_eq_ok hof
  refine ⟨c, hc, hattestation, hscheme, hcertificate, fun hsigned => ?_, fun hplain => ?_⟩
  · obtain hnone | ⟨before, ⟨role, other⟩, later, hsplit, rfl, hlater⟩ :=
      exists_last_or (fun list => list.1 = role) lists
    · exact absurd rfl (hnone _ hgiven)
    · have hother : (role, other) ∈ lists := by rw [hsplit]; exact List.mem_append_cons_self
      rw [hsplit, ← hbacked.unique _ _ _ hgiven hother] at hfound
      exact lastSignature_of_signed hfound hlater ho hc hsigned _
  · have hnever : ∀ other, (role, other) ∈ lists → ∀ o', other[i]? = some o' →
        ∀ c', o'.credentials[j]? = some c' → c'.scheme.isSigned = false := by
      intro other hother o' ho' c' hc'
      rw [← hbacked.unique _ _ _ hgiven hother, ho] at ho'
      cases ho'
      rw [hc] at hc'
      cases hc'
      exact hplain
    exact (lastSignature_of_unsigned hfound hnever _).trans hempty

/-! ## Acceptance -/

/-- The certificate of a credential is trusted. -/
def Credential.IsTrusted (chains : List Chain) (clock : Clock) (c : Credential) : Prop :=
  ∀ pem, c.certificatePem = some pem → validate chains clock pem = .ok true

/-- The private key of a credential is the private half of the RSA key in the certificate beside
it. -/
def Credential.KeyFits (c : Credential) : Prop :=
  ∀ pem secretPem, c.certificatePem = some pem → c.privateKeyPem = some secretPem →
    ∃ key publicKey, Rsa.PrivateKey.ofPem secretPem = .ok key ∧
      rsaKeyOfPem pem = .ok publicKey ∧ key.IsHalfOf publicKey

/-- All certificates whose scheme has signatures are trusted, and the keys of primary owners fit. -/
def OwnersFit (chains : List Chain) (clock : Clock)
    (lists : List (OwnerRole × List OwnerCredentials)) : Prop :=
  ∀ role given, (role, given) ∈ lists → ∀ o ∈ given, ∀ c ∈ o.credentials,
    c.scheme.isSigned = true →
      c.IsTrusted chains clock ∧ (o.isPrimary = true → c.KeyFits)

variable {chains : List Chain} {clock : Clock}

theorem signDigest_eq_ok_iff {pem signature : String} : signDigest pem digest = .ok signature ↔
    ∃ key octets, Rsa.PrivateKey.ofPem pem = .ok key ∧
      Rsa.sign? key (Utf8.encode digest) = some octets ∧ Hex.lower octets = signature := by
  unfold signDigest
  cases Rsa.PrivateKey.ofPem pem with
  | error fault => simp
  | ok key => cases hsign : Rsa.sign? key (Utf8.encode digest) <;> simp [hsign]

/-- **What was signed with a key verifies with its public half**, and is not empty. -/
theorem verifiesText_of_signDigest {pem signature : String} {key : Rsa.PrivateKey}
    (h : signDigest pem digest = .ok signature) (hkey : Rsa.PrivateKey.ofPem pem = .ok key) :
    signature ≠ "" ∧ verifiesText key.toPublic digest signature = true := by
  obtain ⟨key', octets, hkey', hsign, rfl⟩ := signDigest_eq_ok_iff.mp h
  obtain rfl := Except.ok.inj (hkey.symm.trans hkey')
  exact ⟨lower_ne_empty_of_sign? hsign,
    verifiesText_lower (Rsa.verify_of_sign? (Rsa.PrivateKey.isSound_of_ofPem hkey) hsign)⟩

/-- What a primary owner signs with a fitting key is accepted. -/
theorem checkEntry_of_yields {c : Credential} {entry : OwnerEntry}
    (hyields : c.Yields isPrimary digest entry) (hsigned : c.scheme.isSigned = true)
    (htrusted : c.IsTrusted chains clock) (hfits : isPrimary = true → c.KeyFits) :
    checkEntry chains clock digest isPrimary entry = .ok () := by
  have hcertificate := hyields.certificate_eq hsigned
  refine checkEntry_eq_ok_iff.mpr ⟨htrusted _ hcertificate, fun hprimary => ?_⟩
  have hsignature := hyields.signature_eq hsigned
  unfold entrySignature at hsignature
  rw [if_pos hprimary] at hsignature
  split at hsignature
  · cases hsignature
  rename_i secretPem hsecret
  obtain ⟨key, publicKey, hkey, hpublic, hhalf⟩ := hfits hprimary _ _ hcertificate hsecret
  obtain ⟨hne, hverifies⟩ := verifiesText_of_signDigest hsignature hkey
  rw [hhalf.toPublic_eq] at hverifies
  exact ⟨hne, publicKey, hpublic, hverifies⟩

/-- **What owners signed with fitting keys of trusted certificates is accepted**, in every body that
has these owners and the same digest. -/
theorem checkAttestations_of_attested {final : MessageBody} (hbacked : body.Backed lists)
    (h : attestOwners body lists = .ok after) (hfit : OwnersFit chains clock lists)
    (howners : ∀ role, final.owners? role = after.owners? role)
    (hdigest : final.attestationDigest = after.attestationDigest) :
    checkAttestations chains clock final = .ok () := by
  have hsame : final.attestationDigest = body.attestationDigest := by
    obtain ⟨_, _, hattach⟩ := bind_eq_ok_iff.mp h
    rw [hdigest, MessageBody.attestationDigest_attach hattach]
  refine checkAttestations_eq_ok_iff.mpr fun role owners hrole owner howner entry hentry hscheme => ?_
  rw [howners] at hrole
  obtain ⟨i, hi⟩ := List.mem_iff_getElem?.mp howner
  obtain ⟨j, hj⟩ := List.mem_iff_getElem?.mp hentry
  obtain ⟨given, o, hgiven, ho, hprimary, hyields⟩ := attestOwners_yields hbacked h hrole hi
  obtain ⟨c, hc, hyields⟩ := hyields j entry hj
  have hsigned : c.scheme.isSigned = true := hyields.scheme_eq ▸ hscheme
  obtain ⟨htrusted, hfits⟩ := hfit role given hgiven o (List.mem_of_getElem? ho) c
    (List.mem_of_getElem? hc) hsigned
  rw [hsame, hprimary]
  exact checkEntry_of_yields hyields hsigned htrusted hfits

/-- The certificate of a sender that signs is trusted and its key fits, and so is a certificate of
extended validation, if there is one. -/
structure Sender.Fits (sender : Sender) (chains : List Chain) (clock : Clock) : Prop where
  trusted : ∀ c, sender.signingCredential? = some c → c.IsTrusted chains clock
  keyFits : ∀ c, sender.signingCredential? = some c → c.KeyFits
  extended : ∀ pem, sender.evCertificatePem = some pem → pem ≠ "" →
    validate chains clock pem = .ok true ∧ isExtendedValidationPem pem = .ok true

/-- What is said of a sender: nothing of a certificate if it does not sign, and otherwise that of the
credential. Nothing is signed yet. -/
theorem senderIdentity_eq_ok {sender : Sender} {identity : SenderIdentity}
    (h : senderIdentity sender = .ok identity) :
    identity.evCertificatePem = sender.evCertificatePem.getD "" ∧ identity.signature = "" ∧
      (sender.signingCredential? = none →
        identity.scheme = .none ∧ identity.certificatePem = "") ∧
      ∀ c, sender.signingCredential? = some c →
        identity.scheme = c.scheme ∧ c.certificatePem = some identity.certificatePem := by
  unfold senderIdentity at h
  split at h
  · rename_i hnone
    cases h
    refine ⟨rfl, rfl, fun _ => ⟨rfl, rfl⟩, fun c hc => ?_⟩
    rw [hnone] at hc
    cases hc
  · rename_i c hsome
    split at h
    · cases h
    · rename_i pem hpem
      cases h
      refine ⟨rfl, rfl, fun hnone => ?_, fun c' hc' => ?_⟩
      · rw [hsome] at hnone
        cases hnone
      · rw [hsome] at hc'
        cases hc'
        exact ⟨rfl, hpem⟩

/-- A sender that signs puts the signature of its own key over what it signs. -/
theorem attestSender_eq_ok {sender : Sender} {c : Credential}
    (hc : sender.signingCredential? = some c) (h : attestSender body sender = .ok after) :
    ∃ secretPem signature, c.privateKeyPem = some secretPem ∧
      signDigest secretPem body.senderDigest = .ok signature ∧
        after = body.withSenderSignature signature := by
  simp only [attestSender, hc] at h
  split at h
  · cases h
  · rename_i secretPem hsecret
    obtain ⟨signature, hsignature, h⟩ := bind_eq_ok_iff.mp h
    cases h
    exact ⟨secretPem, signature, hsecret, hsignature, rfl⟩

theorem attestSender_of_none {sender : Sender} (hnone : sender.signingCredential? = none)
    (h : attestSender body sender = .ok after) : after = body := by
  simp only [attestSender, hnone] at h
  exact (Except.ok.inj h).symm

/-- **What a sender signed with the fitting key of a trusted certificate is accepted**, in every body
that has this sender and the same digest. -/
theorem checkSender_of_attested {final : MessageBody} {sender : Sender} {identity : SenderIdentity}
    (hidentity : senderIdentity sender = .ok identity) (hbody : body.sender? = some identity)
    (h : attestSender body sender = .ok after) (hfit : sender.Fits chains clock)
    (hsender : final.sender? = after.sender?) (hdigest : final.senderDigest = after.senderDigest) :
    checkSender chains clock final = .ok () := by
  obtain ⟨hev, _, hnone, hsome⟩ := senderIdentity_eq_ok hidentity
  have hevCheck : identity.evCertificatePem ≠ "" →
      checkEvCertificate chains clock identity.evCertificatePem = .ok () := by
    intro hne
    rw [hev] at hne ⊢
    cases hpem : sender.evCertificatePem with
    | none =>
      rw [hpem] at hne
      exact absurd rfl hne
    | some pem =>
      rw [hpem] at hne
      exact checkEvCertificate_eq_ok_iff.mpr (hfit.extended pem hpem hne)
  refine checkSender_eq_ok_iff.mpr fun found hfound => ?_
  rw [hsender] at hfound
  cases hc : sender.signingCredential? with
  | none =>
    rw [attestSender_of_none hc h, hbody] at hfound
    cases hfound
    refine ⟨fun hsigned => ?_, hevCheck⟩
    rw [(hnone hc).1] at hsigned
    cases hsigned
  | some c =>
    obtain ⟨hscheme, hpem⟩ := hsome c hc
    obtain ⟨secretPem, signature, hsecret, hsignature, rfl⟩ := attestSender_eq_ok hc h
    rw [MessageBody.sender?_withSenderSignature, hbody] at hfound
    cases hfound
    refine ⟨fun _ => ?_, hevCheck⟩
    obtain ⟨key, publicKey, hkey, hpublic, hhalf⟩ := hfit.keyFits c hc _ _ hpem hsecret
    obtain ⟨hne, hverifies⟩ := verifiesText_of_signDigest hsignature hkey
    rw [hhalf.toPublic_eq] at hverifies
    refine checkSenderSignature_eq_ok_iff.mpr ⟨hfit.trusted c hc _ hpem, hne, publicKey, hpublic, ?_⟩
    rw [hdigest, MessageBody.senderDigest_withSenderSignature]
    exact hverifies

end AttestedPayments
