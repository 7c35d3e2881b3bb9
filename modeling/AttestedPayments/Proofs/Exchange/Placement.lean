import AttestedPayments.Proofs.Exchange.Completeness
import AttestedPayments.Proofs.Exchange.Requirements

/-!
# Every signature in its own entry

* `Credential.LacksKey`, `Credential.FailsToSign` — why there is no signature by a credential, as a fault.
* `Credential.Puts` — the signature that a credential puts into its entry.
* `MessageBody.SignedBy` — the owners of a body have signed, each in its own entry, and nothing else was
  changed.

Principal result: `attestOwners_places` — owners sign their body, or the first one without a key that can
be read gives the fault; putting signatures into the entries never fails. `attestOwners_limits` shows what
this depends on: a key that can be read but gives no signature lets the operation break off, and if owners
are given in two lists of one role then the later list counts (`lastList_counts`).
-/

set_option autoImplicit false

namespace AttestedPayments

/-! ## Keys -/

/-- A credential has no key to sign with: its private key is missing, or it cannot be read. -/
inductive Credential.LacksKey (c : Credential) : Fault → Prop where
  | missing : c.privateKeyPem = none → c.LacksKey (.key (.entryPrivateKeyMissing c.attestation))
  | unreadable {pem : String} {cause : KeyFault} : c.privateKeyPem = some pem →
      Rsa.PrivateKey.ofPem pem = .error cause → c.LacksKey (.key (.key cause))

/-- There is no signature of a digest by a credential: it has no key to sign with, or the key gives no
signature. -/
inductive Credential.FailsToSign (c : Credential) (digest : String) : Fault → Prop where
  | lacksKey {fault : Fault} : c.LacksKey fault → c.FailsToSign digest fault
  | unable {pem : String} {key : Rsa.PrivateKey} : c.privateKeyPem = some pem →
      Rsa.PrivateKey.ofPem pem = .ok key → Rsa.sign? key (Utf8.encode digest) = none →
        c.FailsToSign digest .breakdown

/-- Either there is a signature by a credential, or one reason why there is none. -/
theorem Credential.failsToSign_of_not_signs {c : Credential} {digest : String}
    (h : ¬ c.Signs digest) : c.FailsToSign digest (c.entrySignNeed digest).fault := by
  unfold entrySignNeed signNeed
  cases hpem : c.privateKeyPem with
  | none => exact .lacksKey (.missing hpem)
  | some pem =>
    dsimp only
    cases hkey : Rsa.PrivateKey.ofPem pem with
    | error cause =>
      rw [signDigest, hkey]
      exact .lacksKey (.unreadable hpem hkey)
    | ok key =>
      cases hsign : Rsa.sign? key (Utf8.encode digest) with
      | none =>
        simp only [signDigest, hkey, hsign]
        exact .unable hpem hkey hsign
      | some octets =>
        exact absurd ⟨pem, _, hpem, signDigest_eq_ok_iff.mpr ⟨key, octets, hkey, hsign, rfl⟩⟩ h

theorem Credential.FailsToSign.fault_eq {c : Credential} {digest : String} {fault : Fault}
    (h : c.FailsToSign digest fault) :
    ¬ c.Signs digest ∧ (c.entrySignNeed digest).fault = fault := by
  unfold Signs entrySignNeed signNeed
  cases h with
  | lacksKey h =>
    cases h with
    | missing hpem => simp [hpem]
    | unreadable hpem hkey => simp [hpem, signDigest, hkey, causeOr]
  | unable hpem hkey hsign => simp [hpem, signDigest, hkey, hsign, causeOr]

theorem Credential.failsToSign_iff {c : Credential} {digest : String} {fault : Fault} :
    c.FailsToSign digest fault ↔ ¬ c.Signs digest ∧ (c.entrySignNeed digest).fault = fault := by
  constructor
  · exact FailsToSign.fault_eq
  · rintro ⟨h, rfl⟩
    exact failsToSign_of_not_signs h

theorem Credential.KeySuffices.signs_iff {c : Credential} (h : c.KeySuffices) (digest : String) :
    c.Signs digest ↔ c.HasKey :=
  ⟨hasKey_of_signs, fun hkey => h.signs hkey digest⟩

/-- A key that can sign fails to only if there is none. -/
theorem Credential.KeySuffices.failsToSign_iff {c : Credential} (h : c.KeySuffices)
    {digest : String} {fault : Fault} : c.FailsToSign digest fault ↔ c.LacksKey fault := by
  refine ⟨fun hfails => ?_, .lacksKey⟩
  cases hfails with
  | lacksKey hlacks => exact hlacks
  | unable hpem hkey hnone =>
    obtain ⟨signature, hsome⟩ := h _ _ hpem hkey (Utf8.encode digest)
    cases hnone.symm.trans hsome

section

variable {body after : MessageBody} {lists : List (OwnerRole × List OwnerCredentials)}

/-- Owners sign with one credential after the other, up to the first one that gives no signature. -/
theorem verdict_attestOwners (hbody : body.HasOwnersOf lists) :
    VerdictOf (fun c => c.Signs body.attestationDigest)
      (fun c => (c.entrySignNeed body.attestationDigest).fault) (signingCredentials lists)
      (attestOwners body lists) :=
  Verdict.of_map (f := Credential.entrySignNeed body.attestationDigest) (requires_attestOwners hbody)

theorem attestOwners_eq_error_iff (hbody : body.HasOwnersOf lists) (fault : Fault) :
    attestOwners body lists = .error fault ↔
      ∃ before c later, signingCredentials lists = before ++ c :: later ∧
        (∀ b ∈ before, b.Signs body.attestationDigest) ∧
          c.FailsToSign body.attestationDigest fault := by
  rw [(verdict_attestOwners hbody).eq_error_iff]
  simp only [Credential.failsToSign_iff]

/-- With keys that can sign, all signatures are there or the first key that is lacking gives the fault. -/
theorem attestOwners_of_keySuffices (hbody : body.HasOwnersOf lists)
    (hkeys : ∀ c ∈ signingCredentials lists, c.KeySuffices) :
    ((∃ after, attestOwners body lists = .ok after) ↔ ∀ c ∈ signingCredentials lists, c.HasKey) ∧
    ∀ fault, attestOwners body lists = .error fault ↔
      ∃ before c later, signingCredentials lists = before ++ c :: later ∧
        (∀ b ∈ before, b.HasKey) ∧ c.LacksKey fault := by
  constructor
  · rw [(verdict_attestOwners hbody).exists_eq_ok_iff]
    exact forall₂_congr fun c hc => (hkeys c hc).signs_iff _
  · intro fault
    rw [attestOwners_eq_error_iff hbody]
    refine exists_congr fun before => exists_congr fun c => exists_congr fun later => ?_
    refine and_congr_right fun hsplit => ?_
    rw [hsplit, List.forall_mem_append, List.forall_mem_cons] at hkeys
    obtain ⟨hbefore, hc, _⟩ := hkeys
    rw [hc.failsToSign_iff]
    exact and_congr_left' (forall₂_congr fun b hb => (hbefore b hb).signs_iff _)

/-! ## Signatures -/

/-- The signature that a credential puts into its entry: that of the digest by its own key, which
verifies with the public half of the key. Only primary owners sign, and only entries whose scheme has
signatures. -/
def Credential.Puts (c : Credential) (isPrimary : Bool) (digest signature : String) : Prop :=
  if isPrimary && c.scheme.isSigned then
    ∃ pem key octets, c.privateKeyPem = some pem ∧ Rsa.PrivateKey.ofPem pem = .ok key ∧
      Rsa.sign? key (Utf8.encode digest) = some octets ∧ signature = Hex.lower octets ∧
        verifiesText key.toPublic digest signature = true
  else signature = ""

theorem Credential.puts_of_entrySignature {c : Credential} {isPrimary : Bool}
    {digest signature : String} (hsigned : c.scheme.isSigned = true)
    (h : entrySignature isPrimary c digest = .ok signature) : c.Puts isPrimary digest signature := by
  unfold Credential.Puts
  rw [hsigned, Bool.and_true]
  cases isPrimary with
  | false =>
    cases h
    rw [if_neg Bool.false_ne_true]
  | true =>
    rw [if_pos rfl]
    rw [entrySignature, if_pos rfl] at h
    split at h
    · cases h
    rename_i pem hpem
    obtain ⟨key, octets, hkey, hsign, hoctets⟩ := signDigest_eq_ok_iff.mp h
    exact ⟨pem, key, octets, hpem, hkey, hsign, hoctets.symm, (verifiesText_of_signDigest h hkey).2⟩

/-- The entry of a credential in the body. -/
theorem MessageBody.HasOwnersOf.exists_entry (hbody : body.HasOwnersOf lists) {role : OwnerRole}
    {given : List OwnerCredentials} (hgiven : (role, given) ∈ lists) {i j : Nat}
    {o : OwnerCredentials} {c : Credential} (ho : given[i]? = some o)
    (hc : o.credentials[j]? = some c) :
    ∃ owners owner entry, body.owners? role = some owners ∧ owners[i]? = some owner ∧
      owner.entries[j]? = some entry ∧ entryOf c = .ok entry := by
  obtain ⟨owners, howners, hmade⟩ := hbody role given hgiven
  obtain ⟨owner, entry, howner, hentry, hof⟩ := exists_entry_of_ownersOf hmade ho hc
  exact ⟨owners, owner, entry, howners, howner, hentry, hof⟩

/-- Before they sign, entries have no signatures. -/
theorem MessageBody.HasOwnersOf.signatureAt?_eq (hbody : body.HasOwnersOf lists) {role : OwnerRole}
    {given : List OwnerCredentials} (hgiven : (role, given) ∈ lists) {i j : Nat}
    {o : OwnerCredentials} {c : Credential} (ho : given[i]? = some o)
    (hc : o.credentials[j]? = some c) : body.signatureAt? role i j = some "" := by
  obtain ⟨owners, owner, entry, howners, howner, hentry, hof⟩ := hbody.exists_entry hgiven ho hc
  rw [MessageBody.signatureAt?, howners, Option.bind_some, signatureIn?, howner, Option.bind_some,
    hentry, Option.map_some, (entryOf_eq_ok hof).2.2.1]

/-- Credentials for the same entry have the same scheme, whatever list they are in. -/
theorem MessageBody.HasOwnersOf.scheme_eq (hbody : body.HasOwnersOf lists) {role : OwnerRole}
    {given other : List OwnerCredentials} (hgiven : (role, given) ∈ lists)
    (hother : (role, other) ∈ lists) {i j : Nat} {o o' : OwnerCredentials} {c c' : Credential}
    (ho : given[i]? = some o) (hc : o.credentials[j]? = some c) (ho' : other[i]? = some o')
    (hc' : o'.credentials[j]? = some c') : c'.scheme = c.scheme := by
  obtain ⟨owners, owner, entry, howners, howner, hentry, hof⟩ := hbody.exists_entry hgiven ho hc
  obtain ⟨owners', owner', entry', howners', howner', hentry', hof'⟩ :=
    hbody.exists_entry hother ho' hc'
  obtain rfl := Option.some.inj (howners.symm.trans howners')
  obtain rfl := Option.some.inj (howner.symm.trans howner')
  obtain rfl := Option.some.inj (hentry.symm.trans hentry')
  exact (entryOf_eq_ok hof').2.1.symm.trans (entryOf_eq_ok hof).2.1

/-- Owners have signed a body, each in its own entry, and nothing else was changed. Of several lists of
a role the last one counts. -/
structure MessageBody.SignedBy (body : MessageBody)
    (lists : List (OwnerRole × List OwnerCredentials)) (after : MessageBody) : Prop where
  own : ∀ before role given later, lists = before ++ (role, given) :: later →
    (∀ list ∈ later, list.1 ≠ role) →
      ∀ (i : Nat) o, given[i]? = some o → ∀ (j : Nat) c, o.credentials[j]? = some c →
        ∃ signature, after.signatureAt? role i j = some signature ∧
          c.Puts o.isPrimary body.attestationDigest signature
  others : ∀ role, (∀ list ∈ lists, list.1 ≠ role) → after.owners? role = body.owners? role
  rest : after.withoutOwnerSignatures = body.withoutOwnerSignatures

theorem signedBy_of_attestOwners (hbody : body.HasOwnersOf lists)
    (h : attestOwners body lists = .ok after) : body.SignedBy lists after := by
  obtain ⟨found, hfound, hattach⟩ := bind_eq_ok_iff.mp h
  refine ⟨fun before role given later hsplit hlater i o ho j c hc => ?_, fun role hrole => ?_,
    MessageBody.withoutOwnerSignatures_attach hattach⟩
  · have hgiven : (role, given) ∈ lists := by rw [hsplit]; exact List.mem_append_cons_self
    refine ⟨lastSignature found.flatten role i j "", ?_, ?_⟩
    · rw [MessageBody.signatureAt?_attach hattach, hbody.signatureAt?_eq hgiven ho hc, Option.map_some]
    cases hsigned : c.scheme.isSigned with
    | true =>
      rw [hsplit] at hfound
      exact Credential.puts_of_entrySignature hsigned
        (lastSignature_of_signed hfound hlater ho hc hsigned "")
    | false =>
      -- another list of the role may have other credentials, but the entry in the body is one
      have hnever : ∀ other, (role, other) ∈ lists → ∀ o', other[i]? = some o' →
          ∀ c', o'.credentials[j]? = some c' → c'.scheme.isSigned = false := by
        intro other hother o' ho' c' hc'
        rw [hbody.scheme_eq hgiven hother ho hc ho' hc', hsigned]
      rw [lastSignature_of_unsigned hfound hnever, Credential.Puts, hsigned, Bool.and_false,
        if_neg Bool.false_ne_true]
  · have hkeep : lastSignature found.flatten role = fun _ _ s => s := by
      funext i j s
      exact lastSignature_of_unsigned hfound (fun given hgiven => absurd rfl (hrole _ hgiven)) s
    rw [MessageBody.attach_eq_ok hattach, MessageBody.owners?_mapOwners, hkeep,
      funext resign_id, Option.map_id']

end

/-- **Every signature lands in its own entry, and putting signatures in never fails.** The owners of a
body sign it, or the first primary owner's entry without a signature ends the operation: its private key
is missing or cannot be read, which is the fault, or the key gives no signature, and then the operation
breaks off. With keys that can sign there are only the first two endings. No other fault is possible,
least of all that an entry is missing. Once the owners have signed, each entry of a primary owner whose
scheme has signatures holds the signature by its own key, which verifies; all other entries are without
one, and the rest of the body is as it was. -/
theorem attestOwners_places {body : MessageBody} {lists : List (OwnerRole × List OwnerCredentials)}
    (hbody : body.HasOwnersOf lists) :
    ((∃ after, attestOwners body lists = .ok after) ↔
      ∀ c ∈ signingCredentials lists, c.Signs body.attestationDigest) ∧
    (∀ fault, attestOwners body lists = .error fault ↔
      ∃ before c later, signingCredentials lists = before ++ c :: later ∧
        (∀ b ∈ before, b.Signs body.attestationDigest) ∧
          c.FailsToSign body.attestationDigest fault) ∧
    ((∀ c ∈ signingCredentials lists, c.KeySuffices) →
      ((∃ after, attestOwners body lists = .ok after) ↔ ∀ c ∈ signingCredentials lists, c.HasKey) ∧
      ∀ fault, attestOwners body lists = .error fault ↔
        ∃ before c later, signingCredentials lists = before ++ c :: later ∧
          (∀ b ∈ before, b.HasKey) ∧ c.LacksKey fault) ∧
    (∀ cause, attestOwners body lists ≠ .error (.owners cause)) ∧
    ∀ after, attestOwners body lists = .ok after → body.SignedBy lists after := by
  refine ⟨(verdict_attestOwners hbody).exists_eq_ok_iff, attestOwners_eq_error_iff hbody,
    attestOwners_of_keySuffices hbody, fun cause h => ?_, fun after h =>
      signedBy_of_attestOwners hbody h⟩
  obtain ⟨before, c, later, -, -, hfails⟩ := (attestOwners_eq_error_iff hbody _).mp h
  cases hfails with
  | lacksKey hlacks => cases hlacks

/-- The sample owners have signed: the primary one in its own entry, and nobody in the others. -/
theorem sampleOwners_placed :
    (sampleSigned "" "").HasOwnersOf [(.originator, sampleOwners), (.beneficiary, [])] ∧
      (∀ c ∈ signingCredentials [(.originator, sampleOwners), (.beneficiary, [])],
        c.KeySuffices) ∧
      ∃ after, attestOwners (sampleSigned "" "") [(.originator, sampleOwners), (.beneficiary, [])] =
          .ok after ∧
        (∃ signature, after.signatureAt? .originator 0 0 = some signature ∧
          sampleCredential.Puts true (sampleSigned "" "").attestationDigest signature) ∧
        after.signatureAt? .originator 1 0 = some "" := by
  have hbody : (sampleSigned "" "").HasOwnersOf [(.originator, sampleOwners), (.beneficiary, [])] := by
    intro role given hgiven
    obtain h | h := List.mem_pair.mp hgiven <;> cases h <;> exact ⟨_, rfl, rfl⟩
  have hkeys := sampleDraft_keysSuffice.owners
  obtain ⟨-, -, hdecides, -, hplaces⟩ := attestOwners_places hbody
  have hhas : ∀ c ∈ signingCredentials [(.originator, sampleOwners), (.beneficiary, [])],
      c.HasKey := by
    intro c hc
    obtain rfl := List.mem_singleton.mp (show c ∈ [sampleCredential] from hc)
    exact ⟨_, _, rfl, ofPem_sampleKeyPem⟩
  obtain ⟨after, hafter⟩ := (hdecides hkeys).1.mpr hhas
  have hsigned := hplaces _ hafter
  have hlater : ∀ list ∈ [((OwnerRole.beneficiary, []) : OwnerRole × List OwnerCredentials)],
      list.1 ≠ .originator := by
    simp
  have hat := hsigned.own [] .originator sampleOwners [(.beneficiary, [])] rfl hlater
  refine ⟨hbody, hkeys, after, hafter, hat 0 _ rfl 0 _ rfl, ?_⟩
  obtain ⟨signature, hsignature, hputs⟩ := hat 1 _ rfl 0 _ rfl
  rw [hsignature]
  exact congrArg some hputs

/-! ## Two keys for one entry, and a key that is too short -/

/-- A primary owner with a private key. -/
def keyOwners (key : Rsa.PrivateKey) : List OwnerCredentials :=
  [⟨true, [⟨.dateOfBirth, some (bareKeyPem key), some sampleClient.toPem, .x509Sha256⟩]⟩]

/-- The payment of that owner, whatever the key is. -/
def keyPayment : MessageBody :=
  .payment { Payment.blank with
    originators := [⟨true, [⟨.dateOfBirth, sampleClient.toPem, .x509Sha256, ""⟩]⟩] }

theorem keyPayment_hasOwnersOf (keys : List Rsa.PrivateKey) :
    keyPayment.HasOwnersOf (keys.map fun key => (.originator, keyOwners key)) := by
  intro role given hgiven
  obtain ⟨key, -, heq⟩ := List.mem_map.mp hgiven
  cases heq
  exact ⟨_, rfl, rfl⟩

/-- A signature that is put into an entry has as many octets as the modulus of the key. -/
theorem Credential.Puts.exists_octets {c : Credential} {pem digest signature : String}
    {key : Rsa.PrivateKey} (h : c.Puts true digest signature) (hsigned : c.scheme.isSigned = true)
    (hpem : c.privateKeyPem = some pem) (hkey : Rsa.PrivateKey.ofPem pem = .ok key) :
    ∃ octets, signature = Hex.lower octets ∧ octets.length = key.toPublic.size := by
  rw [Credential.Puts, hsigned, Bool.and_true, if_pos rfl] at h
  obtain ⟨_, _, octets, hfound, hread, hsign, hsignature, -⟩ := h
  obtain rfl := Option.some.inj (hpem.symm.trans hfound)
  obtain rfl := Except.ok.inj (hkey.symm.trans hread)
  exact ⟨octets, hsignature, Rsa.length_of_sign? hsign⟩

/-- **Of two lists of one role, the last one counts**: the owner of the first one signs as well, but that
signature is replaced. -/
theorem lastList_counts {first second : Rsa.PrivateKey}
    (hsize : first.toPublic.size ≠ second.toPublic.size)
    (hfirst : Rsa.PrivateKey.ofPem (bareKeyPem first) = .ok first) (hsigns : first.CanSign)
    (hsecond : Rsa.PrivateKey.ofPem (bareKeyPem second) = .ok second) (hsigns' : second.CanSign) :
    ∃ after signature, attestOwners keyPayment
        [(.originator, keyOwners first), (.originator, keyOwners second)] = .ok after ∧
      after.signatureAt? .originator 0 0 = some signature ∧
      ∀ o ∈ keyOwners first, ∀ c ∈ o.credentials,
        ¬ c.Puts o.isPrimary keyPayment.attestationDigest signature := by
  have hbody := keyPayment_hasOwnersOf [first, second]
  have hkeys : ∀ c ∈ signingCredentials
      [(.originator, keyOwners first), (.originator, keyOwners second)],
      c.KeySuffices ∧ c.HasKey := by
    intro c hc
    obtain rfl | rfl := List.mem_pair.mp hc
    · exact ⟨.of_canSign rfl hfirst hsigns, _, _, rfl, hfirst⟩
    · exact ⟨.of_canSign rfl hsecond hsigns', _, _, rfl, hsecond⟩
  obtain ⟨after, hafter⟩ := (attestOwners_of_keySuffices hbody fun c hc => (hkeys c hc).1).1.mpr
    fun c hc => (hkeys c hc).2
  obtain ⟨signature, hsignature, hputs⟩ := (signedBy_of_attestOwners hbody hafter).own
    [(.originator, keyOwners first)] .originator (keyOwners second) [] rfl
    (List.forall_mem_nil _) 0 _ rfl 0 _ rfl
  refine ⟨after, signature, hafter, hsignature, fun o ho c hc hown => ?_⟩
  obtain rfl := List.mem_singleton.mp ho
  obtain rfl := List.mem_singleton.mp hc
  -- the key of the first list would have given a signature of another length
  obtain ⟨octets, hoctets, hlength⟩ := hown.exists_octets rfl rfl hfirst
  obtain ⟨octets', hoctets', hlength'⟩ := hputs.exists_octets rfl rfl hsecond
  obtain rfl := Hex.lower_injective (hoctets.symm.trans hoctets')
  exact hsize (hlength.symm.trans hlength')

/-- A key like `sampleKey` with a smaller factor. -/
def smallerKey : Rsa.PrivateKey :=
  { modulus := (2 ^ 107 - 1) * (2 ^ 521 - 1)
    exponent := 65537
    secretExponent :=
      8030683912877664319779350487417595896235333640108699750980091951491014138473510395476034589753216574171967215540164832417274008397521289015546983332701750129949617083325016994605631866723
    firstFactor := 2 ^ 107 - 1
    secondFactor := 2 ^ 521 - 1 }

theorem smallerKey_isHalfOf : smallerKey.IsHalfOf smallerKey.toPublic where
  toPublic_eq := rfl
  sound := by decide +kernel
  first_prime := lucas_lehmer_sufficiency 107 (by norm_num) (by norm_num)
  second_prime := sampleKey_isHalfOf.second_prime
  factors_ne := by decide +kernel
  size_le := by decide +kernel

theorem ofPem_smallerKey : Rsa.PrivateKey.ofPem (bareKeyPem smallerKey) = .ok smallerKey := by
  rw [Rsa.PrivateKey.ofPem, encode_trim_bareKeyPem]
  decide +kernel

/-- A private key of one octet. -/
def shortKey : Rsa.PrivateKey := ⟨55, 3, 27, 5, 11⟩

theorem ofPem_shortKey : Rsa.PrivateKey.ofPem (bareKeyPem shortKey) = .ok shortKey := by
  rw [Rsa.PrivateKey.ofPem, encode_trim_bareKeyPem]
  decide +kernel

theorem sign?_shortKey (message : Bytes) : Rsa.sign? shortKey message = none := by
  cases h : Rsa.sign? shortKey message with
  | none => rfl
  | some signature =>
    have hsize : shortKey.toPublic.size < Rsa.DigestKind.sha256.digestLength + 30 := by
      decide +kernel
    exact absurd (Rsa.size_le_of_sign? h) (by omega)

/-- **A private key that can be read need not sign, and a signature need not stay.** The only key of the
first payment's owner is there and can be read, and still the operation neither succeeds nor has the fault
of a key. The second payment is signed with two keys, of which the later one counts. -/
theorem attestOwners_limits :
    (keyPayment.HasOwnersOf [(.originator, keyOwners shortKey)] ∧
      (∀ c ∈ signingCredentials [(.originator, keyOwners shortKey)], c.HasKey) ∧
      (¬ ∃ after, attestOwners keyPayment [(.originator, keyOwners shortKey)] = .ok after) ∧
      (¬ ∃ cause, attestOwners keyPayment [(.originator, keyOwners shortKey)] =
        .error (.key cause)) ∧
      attestOwners keyPayment [(.originator, keyOwners shortKey)] = .error .breakdown) ∧
    keyPayment.HasOwnersOf
        [(.originator, keyOwners sampleKey), (.originator, keyOwners smallerKey)] ∧
      ∃ after signature, attestOwners keyPayment
          [(.originator, keyOwners sampleKey), (.originator, keyOwners smallerKey)] = .ok after ∧
        after.signatureAt? .originator 0 0 = some signature ∧
        ∀ o ∈ keyOwners sampleKey, ∀ c ∈ o.credentials,
          ¬ c.Puts o.isPrimary keyPayment.attestationDigest signature := by
  have hbody := keyPayment_hasOwnersOf [shortKey]
  have hbreaks : attestOwners keyPayment [(.originator, keyOwners shortKey)] =
      .error .breakdown :=
    (attestOwners_eq_error_iff hbody _).mpr ⟨[], _, [], rfl, List.forall_mem_nil _,
      .unable rfl ofPem_shortKey (sign?_shortKey _)⟩
  have hsize : sampleKey.toPublic.size ≠ smallerKey.toPublic.size := by decide +kernel
  refine ⟨⟨hbody, fun c hc => ?_, ?_, ?_, hbreaks⟩,
    keyPayment_hasOwnersOf [sampleKey, smallerKey],
    lastList_counts hsize ofPem_sampleKeyPem sampleKey_isHalfOf.canSign ofPem_smallerKey
      smallerKey_isHalfOf.canSign⟩
  · obtain rfl := List.mem_singleton.mp hc
    exact ⟨_, _, rfl, ofPem_shortKey⟩
  · rw [hbreaks]
    exact nofun
  · rw [hbreaks]
    exact nofun

end AttestedPayments
