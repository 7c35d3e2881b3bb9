import AttestedPayments.Exchange.Attesting
import AttestedPayments.Proofs.Message.Signatures
import AttestedPayments.Proofs.Results

/-!
# Where signatures of owners land

* `resign` — every signature of a list of owners replaced according to its place; nothing else
  changes.
* `SignatureRecord.Addresses` — the place that a record belongs to.
* `lastSignature` — the signature that records leave at a place.
* `MessageBody.signatureAt?` — the signature at a place; `MessageBody.eq_of_withoutOwnerSignatures` —
  bodies with the same signatures are the same if they are so without them.
* `MessageBody.Accepts` — a body has the entry that a record addresses; `MessageBody.exists_attach` —
  if it has all of them then nothing fails.

Principal result: `MessageBody.attach_eq_ok` — signatures that are all put in land in the entries that
their records address, the last one for an entry counts, and nothing else changes.
-/

set_option autoImplicit false

namespace AttestedPayments

/-! ## Signatures by place -/

/-- Owners with other signatures, each given by the places of owner and entry and by the one that was
there. -/
def resign (f : Nat → Nat → String → String) (owners : List Owner) : List Owner :=
  owners.mapIdx fun i o =>
    { o with entries := o.entries.mapIdx fun j e => { e with signature := f i j e.signature } }

theorem resign_resign (f g : Nat → Nat → String → String) (owners : List Owner) :
    resign g (resign f owners) = resign (fun i j s => g i j (f i j s)) owners := by
  simp only [resign, List.mapIdx_mapIdx, Function.comp_def]

theorem mapIdx_self {α : Type} (l : List α) : (l.mapIdx fun _ a => a) = l :=
  List.mapIdx_eq_iff.mpr fun _ => Option.map_id'.symm

theorem resign_id (owners : List Owner) : resign (fun _ _ s => s) owners = owners := by
  simp only [resign, mapIdx_self]

/-- The signature of an entry of an owner. -/
def signatureIn? (owners : List Owner) (i j : Nat) : Option String :=
  owners[i]?.bind fun o => o.entries[j]?.map OwnerEntry.signature

theorem signatureIn?_resign (f : Nat → Nat → String → String) (owners : List Owner) (i j : Nat) :
    signatureIn? (resign f owners) i j = (signatureIn? owners i j).map (f i j) := by
  simp only [signatureIn?, resign, List.getElem?_mapIdx, Option.bind_map, Option.map_bind,
    Function.comp_def, Option.map_map]

theorem entry_eq_of_unsigned {a b : OwnerEntry} (hrest : a.unsigned = b.unsigned)
    (h : a.signature = b.signature) : a = b := by
  have hput : ∀ e : OwnerEntry, e = { e.unsigned with signature := e.signature } := fun _ => rfl
  rw [hput a, hput b, hrest, h]

theorem entries_eq_of_unsigned {as bs : List OwnerEntry}
    (hrest : as.map OwnerEntry.unsigned = bs.map OwnerEntry.unsigned)
    (h : ∀ j : Nat, as[j]?.map OwnerEntry.signature = bs[j]?.map OwnerEntry.signature) : as = bs := by
  induction as generalizing bs with
  | nil => exact (List.map_eq_nil_iff.mp hrest.symm).symm
  | cons a as ih =>
    obtain ⟨b, bs, rfl, hhead, htail⟩ := List.map_eq_cons_iff.mp hrest.symm
    rw [entry_eq_of_unsigned hhead.symm (Option.some.inj (h 0)),
      ih htail.symm fun j => h (j + 1)]

theorem owner_eq_of_unsigned {a b : Owner} (hrest : a.unsigned = b.unsigned)
    (h : ∀ j : Nat, a.entries[j]?.map OwnerEntry.signature = b.entries[j]?.map OwnerEntry.signature) :
    a = b := by
  cases a
  cases b
  obtain ⟨hprimary, hentries⟩ := Owner.mk.inj hrest
  exact congrArg₂ Owner.mk hprimary (entries_eq_of_unsigned hentries h)

/-- Owners are the same if they are so without signatures and have the same signatures. -/
theorem owners_eq_of_unsigned {as bs : List Owner}
    (hrest : as.map Owner.unsigned = bs.map Owner.unsigned)
    (h : ∀ i j, signatureIn? as i j = signatureIn? bs i j) : as = bs := by
  induction as generalizing bs with
  | nil => exact (List.map_eq_nil_iff.mp hrest.symm).symm
  | cons a as ih =>
    obtain ⟨b, bs, rfl, hhead, htail⟩ := List.map_eq_cons_iff.mp hrest.symm
    rw [owner_eq_of_unsigned hhead.symm (h 0), ih htail.symm fun i => h (i + 1)]

theorem map_unsigned_resign (f : Nat → Nat → String → String) (owners : List Owner) :
    (resign f owners).map Owner.unsigned = owners.map Owner.unsigned := by
  apply List.ext_getElem?
  intro i
  simp only [resign, List.getElem?_map, List.getElem?_mapIdx, Option.map_map]
  congr 1
  funext o
  simp only [Function.comp, Owner.unsigned, Owner.mk.injEq, true_and]
  apply List.ext_getElem?
  intro j
  simp only [List.getElem?_map, List.getElem?_mapIdx, Option.map_map]
  rfl

/-- Each owner is there as before, but for the signatures. -/
theorem getElem?_resign_eq_some {f : Nat → Nat → String → String} {owners : List Owner} {i : Nat}
    {owner : Owner} (h : (resign f owners)[i]? = some owner) :
    ∃ before, owners[i]? = some before ∧ owner.isPrimary = before.isPrimary ∧
      ∀ j entry, owner.entries[j]? = some entry → ∃ old : OwnerEntry, before.entries[j]? = some old ∧
        entry = { old with signature := f i j old.signature } := by
  rw [resign, List.getElem?_mapIdx, Option.map_eq_some_iff] at h
  obtain ⟨before, hbefore, rfl⟩ := h
  refine ⟨before, hbefore, rfl, fun j entry hentry => ?_⟩
  rw [List.getElem?_mapIdx, Option.map_eq_some_iff] at hentry
  obtain ⟨old, hold, rfl⟩ := hentry
  exact ⟨old, hold, rfl⟩

/-! ## Records -/

/-- The signature belongs to an entry of an owner in a role. -/
def SignatureRecord.Addresses (r : SignatureRecord) (role : OwnerRole) (i j : Nat) : Prop :=
  r.role = role ∧ r.owner = i ∧ r.entry = j

instance (r : SignatureRecord) (role : OwnerRole) (i j : Nat) : Decidable (r.Addresses role i j) :=
  inferInstanceAs (Decidable (_ ∧ _ ∧ _))

/-- The signature that a record leaves at a place. -/
def SignatureRecord.leave (r : SignatureRecord) (role : OwnerRole) (i j : Nat) (s : String) :
    String :=
  if r.Addresses role i j then r.signature else s

/-- The signature that records leave at a place, one after the other. -/
def lastSignature (records : List SignatureRecord) (role : OwnerRole) (i j : Nat) (s : String) :
    String :=
  records.foldl (fun s r => r.leave role i j s) s

theorem lastSignature_cons (r : SignatureRecord) (records : List SignatureRecord)
    (role : OwnerRole) (i j : Nat) (s : String) :
    lastSignature (r :: records) role i j s = lastSignature records role i j (r.leave role i j s) :=
  rfl

theorem lastSignature_append (before later : List SignatureRecord) (role : OwnerRole) (i j : Nat)
    (s : String) :
    lastSignature (before ++ later) role i j s =
      lastSignature later role i j (lastSignature before role i j s) :=
  List.foldl_append

/-- A place that no record addresses keeps its signature. -/
theorem lastSignature_of_forall_not {records : List SignatureRecord} {role : OwnerRole} {i j : Nat}
    (h : ∀ r ∈ records, ¬ r.Addresses role i j) (s : String) :
    lastSignature records role i j s = s := by
  induction records generalizing s with
  | nil => rfl
  | cons r records ih =>
    obtain ⟨hr, h⟩ := List.forall_mem_cons.mp h
    rw [lastSignature_cons, SignatureRecord.leave, if_neg hr, ih h]

/-- A place for which all records have the same signature gets it, if there is such a record. -/
theorem lastSignature_of_forall {records : List SignatureRecord} {role : OwnerRole} {i j : Nat}
    {signature : String} (hex : ∃ r ∈ records, r.Addresses role i j)
    (hall : ∀ r ∈ records, r.Addresses role i j → r.signature = signature) (s : String) :
    lastSignature records role i j s = signature := by
  induction records generalizing s with
  | nil =>
    obtain ⟨_, hr, _⟩ := hex
    cases hr
  | cons r records ih =>
    obtain ⟨hr, hall⟩ := List.forall_mem_cons.mp hall
    rw [lastSignature_cons]
    by_cases hmore : ∃ r ∈ records, r.Addresses role i j
    · exact ih hmore hall _
    · have hnone : ∀ r ∈ records, ¬ r.Addresses role i j := fun r hr ha => hmore ⟨r, hr, ha⟩
      rw [lastSignature_of_forall_not hnone, SignatureRecord.leave]
      obtain ⟨r', hr', ha⟩ := hex
      rcases List.mem_cons.mp hr' with rfl | hr'
      · rw [if_pos ha, hr ha]
      · exact absurd ha (hnone r' hr')

/-- The last record for a place counts. -/
theorem lastSignature_of_last {r : SignatureRecord} {later : List SignatureRecord}
    {role : OwnerRole} {i j : Nat} (hr : r.Addresses role i j)
    (hlater : ∀ r' ∈ later, ¬ r'.Addresses role i j) (before : List SignatureRecord) (s : String) :
    lastSignature (before ++ r :: later) role i j s = r.signature := by
  rw [lastSignature_append, lastSignature_cons, lastSignature_of_forall_not hlater,
    SignatureRecord.leave, if_pos hr]

/-- A list has a last member of a kind, unless it has none. -/
theorem exists_last_or {α : Type} (p : α → Prop) [DecidablePred p] (l : List α) :
    (∀ a ∈ l, ¬ p a) ∨
      ∃ before a later, l = before ++ a :: later ∧ p a ∧ ∀ b ∈ later, ¬ p b := by
  induction l with
  | nil => exact .inl (List.forall_mem_nil _)
  | cons first l ih =>
    obtain hnone | ⟨before, a, later, rfl, ha, hlater⟩ := ih
    · by_cases hfirst : p first
      · exact .inr ⟨[], first, l, rfl, hfirst, hnone⟩
      · exact .inl (List.forall_mem_cons.mpr ⟨hfirst, hnone⟩)
    · exact .inr ⟨first :: before, a, later, rfl, ha, hlater⟩

/-! ## Attaching -/

namespace MessageBody

variable {body after : MessageBody}

/-- The signature of an entry of an owner in a role. -/
def signatureAt? (body : MessageBody) (role : OwnerRole) (i j : Nat) : Option String :=
  (body.owners? role).bind fun owners => signatureIn? owners i j

theorem signatureAt?_resign (f : OwnerRole → Nat → Nat → String → String) (role : OwnerRole)
    (i j : Nat) :
    (body.mapOwners fun role => resign (f role)).signatureAt? role i j =
      (body.signatureAt? role i j).map (f role i j) := by
  simp only [signatureAt?, owners?_mapOwners, Option.bind_map, Option.map_bind, Function.comp_def,
    signatureIn?_resign]

/-- A body is made of what it is without the signatures of its owners, and of their lists. -/
theorem withoutOwnerSignatures_mapOwners :
    (body.withoutOwnerSignatures.mapOwners fun role _ => (body.owners? role).getD []) = body := by
  rw [withoutOwnerSignatures_eq, mapOwners_mapOwners]
  refine (mapOwners_congr fun role owners howners => ?_).trans body.mapOwners_id
  rw [howners, Option.getD_some]

/-- Bodies are the same if they are so without the signatures of their owners and have the same
signatures. -/
theorem eq_of_withoutOwnerSignatures {a b : MessageBody}
    (hrest : a.withoutOwnerSignatures = b.withoutOwnerSignatures)
    (h : ∀ role i j, a.signatureAt? role i j = b.signatureAt? role i j) : a = b := by
  have howners : ∀ role, a.owners? role = b.owners? role := by
    intro role
    have hlists := congrArg (owners? · role) hrest
    have hrole := h role
    simp only [withoutOwnerSignatures_eq, owners?_mapOwners] at hlists
    unfold signatureAt? at hrole
    cases ha : a.owners? role with
    | none =>
      rw [ha] at hlists
      exact (Option.map_eq_none_iff.mp hlists.symm).symm
    | some as =>
      rw [ha] at hlists hrole
      obtain ⟨bs, hb, hbs⟩ := Option.map_eq_some_iff.mp hlists.symm
      rw [hb] at hrole ⊢
      exact congrArg some (owners_eq_of_unsigned hbs.symm hrole)
  calc a = a.withoutOwnerSignatures.mapOwners fun role _ => (a.owners? role).getD [] :=
        withoutOwnerSignatures_mapOwners.symm
    _ = b.withoutOwnerSignatures.mapOwners fun role _ => (b.owners? role).getD [] := by
        simp only [hrest, howners]
    _ = b := withoutOwnerSignatures_mapOwners

theorem withoutOwnerSignatures_resign (f : OwnerRole → Nat → Nat → String → String) :
    (body.mapOwners fun role => resign (f role)).withoutOwnerSignatures =
      body.withoutOwnerSignatures := by
  simp only [withoutOwnerSignatures_eq, mapOwners_mapOwners, map_unsigned_resign]

/-- A list in which one signature of one owner was replaced. -/
theorem set_eq_resign {r : SignatureRecord} {owners : List Owner} {owner : Owner}
    {entry : OwnerEntry} (howner : owners[r.owner]? = some owner)
    (hentry : owner.entries[r.entry]? = some entry) :
    owners.set r.owner { owner with
        entries := owner.entries.set r.entry { entry with signature := r.signature } } =
      resign (r.leave r.role) owners := by
  apply List.ext_getElem?
  intro i
  rw [resign, List.getElem?_mapIdx]
  by_cases hi : r.owner = i
  · subst hi
    rw [List.getElem?_set_self (List.getElem?_eq_some_iff.mp howner).1, howner, Option.map_some,
      Option.some.injEq, Owner.mk.injEq]
    refine ⟨rfl, ?_⟩
    apply List.ext_getElem?
    intro j
    rw [List.getElem?_mapIdx]
    by_cases hj : r.entry = j
    · subst hj
      rw [List.getElem?_set_self (List.getElem?_eq_some_iff.mp hentry).1, hentry, Option.map_some,
        SignatureRecord.leave, if_pos ⟨rfl, rfl, rfl⟩]
    · rw [List.getElem?_set_ne hj]
      have hleave : ∀ s, r.leave r.role r.owner j s = s := fun s => if_neg fun h => hj h.2.2
      simp only [hleave, Option.map_id']
  · rw [List.getElem?_set_ne hi]
    have hleave : ∀ j s, r.leave r.role i j s = s := fun j s => if_neg fun h => hi h.2.1
    have hsame : ∀ o : Owner, (o.entries.mapIdx fun j e =>
        { e with signature := r.leave r.role i j e.signature }) = o.entries := by
      intro o
      simp only [hleave, mapIdx_self]
    simp only [hsame, Option.map_id']

theorem attachOne_eq_ok {r : SignatureRecord} (h : body.attachOne r = .ok after) :
    after = body.mapOwners fun role => resign (r.leave role) := by
  simp only [attachOne] at h
  split at h
  · cases h
  rename_i owners howners
  split at h
  · cases h
  rename_i owner howner
  split at h
  · cases h
  rename_i entry hentry
  split at h
  · cases h
    rw [withOwners_eq_mapOwners, set_eq_resign howner hentry]
    have hother : ∀ role l, r.role ≠ role → resign (r.leave role) l = l := by
      intro role l hrole
      have hleave : r.leave role = fun _ _ s => s := by
        funext i j s
        exact if_neg fun h => hrole h.1
      rw [hleave, resign_id]
    refine mapOwners_congr fun role l hl => ?_
    by_cases hrole : role = r.role
    · subst hrole
      rw [howners] at hl
      cases hl
      rw [if_pos rfl]
    · rw [if_neg hrole, hother role l fun h => hrole h.symm]
  · cases h

theorem attachUntil_eq_ok {records : List SignatureRecord}
    (h : body.attachUntil records = (after, none)) :
    after = body.mapOwners fun role => resign (lastSignature records role) := by
  induction records generalizing body with
  | nil =>
    cases h
    have hid : ∀ role, resign (lastSignature [] role) = fun owners => owners := by
      intro role
      funext owners
      exact resign_id owners
    simp only [hid, mapOwners_id]
  | cons r records ih =>
    simp only [attachUntil] at h
    split at h
    · cases h
    rename_i middle hmiddle
    rw [ih h, attachOne_eq_ok hmiddle]
    simp only [mapOwners_mapOwners, resign_resign]
    rfl

/-- **Signatures land where their records say.** -/
theorem attach_eq_ok {records : List SignatureRecord} (h : body.attach records = .ok after) :
    after = body.mapOwners fun role => resign (lastSignature records role) := by
  unfold attach at h
  split at h
  · rename_i hnone
    cases h
    exact attachUntil_eq_ok hnone
  · cases h

theorem signatureAt?_attach {records : List SignatureRecord} (h : body.attach records = .ok after)
    (role : OwnerRole) (i j : Nat) :
    after.signatureAt? role i j =
      (body.signatureAt? role i j).map (lastSignature records role i j) := by
  rw [attach_eq_ok h]
  exact signatureAt?_resign _ role i j

theorem withoutOwnerSignatures_attach {records : List SignatureRecord}
    (h : body.attach records = .ok after) :
    after.withoutOwnerSignatures = body.withoutOwnerSignatures := by
  rw [attach_eq_ok h, withoutOwnerSignatures_resign]

/-- Places that no record addresses keep their signatures. -/
theorem signatureAt?_attach_of_forall_not {records : List SignatureRecord}
    (h : body.attach records = .ok after) {role : OwnerRole} {i j : Nat}
    (hnone : ∀ r ∈ records, ¬ r.Addresses role i j) :
    after.signatureAt? role i j = body.signatureAt? role i j := by
  have hkeep : lastSignature records role i j = id := funext (lastSignature_of_forall_not hnone)
  rw [signatureAt?_attach h, hkeep, Option.map_id_apply]

/-- A body has the entry that a record addresses, and it holds the statement that was signed. -/
def Accepts (body : MessageBody) (r : SignatureRecord) : Prop :=
  ∃ owners owner entry, body.owners? r.role = some owners ∧ owners[r.owner]? = some owner ∧
    owner.entries[r.entry]? = some entry ∧ entry.attestation = r.attestation

theorem exists_attachOne {r : SignatureRecord} (h : body.Accepts r) :
    ∃ after, body.attachOne r = .ok after := by
  obtain ⟨owners, owner, entry, howners, howner, hentry, hattestation⟩ := h
  simp only [attachOne, howners, howner, hentry]
  rw [if_pos hattestation]
  exact ⟨_, rfl⟩

/-- Other signatures leave the entries where they are, with their statements. -/
theorem Accepts.resign {f : OwnerRole → Nat → Nat → String → String} {r : SignatureRecord}
    (h : body.Accepts r) : (body.mapOwners fun role => resign (f role)).Accepts r := by
  obtain ⟨owners, owner, entry, howners, howner, hentry, hattestation⟩ := h
  have howners' : (body.mapOwners fun role => AttestedPayments.resign (f role)).owners? r.role =
      some (AttestedPayments.resign (f r.role) owners) := by
    rw [owners?_mapOwners, howners, Option.map_some]
  have howner' : (AttestedPayments.resign (f r.role) owners)[r.owner]? =
      some { owner with
        entries := owner.entries.mapIdx fun j e =>
          { e with signature := f r.role r.owner j e.signature } } := by
    rw [AttestedPayments.resign, List.getElem?_mapIdx, howner, Option.map_some]
  have hentry' : (owner.entries.mapIdx fun j e =>
      { e with signature := f r.role r.owner j e.signature })[r.entry]? =
        some { entry with signature := f r.role r.owner r.entry entry.signature } := by
    rw [List.getElem?_mapIdx, hentry, Option.map_some]
  exact ⟨_, _, _, howners', howner', hentry', hattestation⟩

theorem accepts_of_resign {f : OwnerRole → Nat → Nat → String → String} {r : SignatureRecord}
    (h : (body.mapOwners fun role => AttestedPayments.resign (f role)).Accepts r) :
    body.Accepts r := by
  obtain ⟨owners, owner, entry, howners, howner, hentry, hattestation⟩ := h
  rw [owners?_mapOwners, Option.map_eq_some_iff] at howners
  obtain ⟨owners, howners, rfl⟩ := howners
  obtain ⟨before, hbefore, -, hentries⟩ := getElem?_resign_eq_some howner
  obtain ⟨old, hold, rfl⟩ := hentries _ _ hentry
  exact ⟨owners, before, old, howners, hbefore, hold, hattestation⟩

theorem accepts_of_attachOne {r : SignatureRecord} (h : body.attachOne r = .ok after) :
    body.Accepts r := by
  simp only [attachOne] at h
  split at h
  · cases h
  rename_i owners howners
  split at h
  · cases h
  rename_i owner howner
  split at h
  · cases h
  rename_i entry hentry
  split at h
  · exact ⟨owners, owner, entry, howners, howner, hentry, ‹_›⟩
  · cases h

theorem accepts_of_attachUntil {records : List SignatureRecord}
    (h : body.attachUntil records = (after, none)) : ∀ r ∈ records, body.Accepts r := by
  induction records generalizing body with
  | nil => exact List.forall_mem_nil _
  | cons r records ih =>
    simp only [attachUntil] at h
    split at h
    · cases h
    rename_i middle hmiddle
    have hrest := ih h
    rw [attachOne_eq_ok hmiddle] at hrest
    exact List.forall_mem_cons.mpr
      ⟨accepts_of_attachOne hmiddle, fun r' hr' => accepts_of_resign (hrest r' hr')⟩

/-- Signatures that are all put in have their entries. -/
theorem accepts_of_attach {records : List SignatureRecord} (h : body.attach records = .ok after) :
    ∀ r ∈ records, body.Accepts r := by
  unfold attach at h
  split at h
  · rename_i hnone
    exact accepts_of_attachUntil hnone
  · cases h

theorem Accepts.exists_signature {r : SignatureRecord} (h : body.Accepts r) :
    ∃ s, body.signatureAt? r.role r.owner r.entry = some s := by
  obtain ⟨owners, owner, entry, howners, howner, hentry, -⟩ := h
  refine ⟨entry.signature, ?_⟩
  rw [signatureAt?, howners, Option.bind_some, signatureIn?, howner, Option.bind_some, hentry,
    Option.map_some]

/-- **Signatures whose entries are there are all put in.** -/
theorem exists_attach {records : List SignatureRecord} (h : ∀ r ∈ records, body.Accepts r) :
    ∃ after, body.attach records = .ok after := by
  have huntil : ∃ after, body.attachUntil records = (after, none) := by
    induction records generalizing body with
    | nil => exact ⟨body, rfl⟩
    | cons r records ih =>
      obtain ⟨hr, h⟩ := List.forall_mem_cons.mp h
      obtain ⟨middle, hmiddle⟩ := exists_attachOne hr
      simp only [attachUntil, hmiddle]
      refine ih fun r' hr' => ?_
      rw [attachOne_eq_ok hmiddle]
      exact (h r' hr').resign
  obtain ⟨after, hafter⟩ := huntil
  exact ⟨after, by rw [attach, hafter]⟩

/-- What owners sign is the same before and after their signatures are put in. -/
theorem attestationDigest_attach {records : List SignatureRecord}
    (h : body.attach records = .ok after) : after.attestationDigest = body.attestationDigest := by
  rw [attach_eq_ok h]
  exact body.attestationDigest_mapOwners _ fun _ _ => map_unsigned_resign _ _

end MessageBody

end AttestedPayments
