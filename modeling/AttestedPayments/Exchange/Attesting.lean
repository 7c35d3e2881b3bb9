import AttestedPayments.Key.RsaKey
import AttestedPayments.Message.Digest
import AttestedPayments.Message.Parties
import AttestedPayments.Trust.Path

/-!
# Statements of owners

* `checkOwners` — exactly one owner of a list is primary.
* `ownersOf` — owners as they travel, without signatures.
* `signatureRecords` — the signatures of one list: primary owners sign, others have an empty
  signature, and entries without a certificate have none.
* `MessageBody.attach` — signatures put into their entries.
* `checkAttestations` — whether all certificates are trusted and all signatures of primary owners
  fit, or the first fault.
-/

namespace AttestedPayments

/-- A signature and the entry that it belongs to. -/
structure SignatureRecord where
  role : OwnerRole
  owner : Nat
  entry : Nat
  attestation : Attestation
  signature : String
  deriving DecidableEq, Repr

/-- Exactly one owner of a list must be primary. -/
def checkOwners (owners : List OwnerCredentials) (role : OwnerRole) : Except Fault Unit :=
  match owners.countP OwnerCredentials.isPrimary with
  | 1 => .ok ()
  | 0 => .error (.owners (.noPrimary role))
  | n => .error (.owners (.manyPrimaries role n))

/-- The entry of a credential, without a signature. A scheme with signatures needs a certificate; a
certificate that is not needed travels all the same. -/
def entryOf (c : Credential) : Except Fault OwnerEntry :=
  match c.certificatePem, c.scheme.isSigned with
  | some pem, _ => .ok ⟨c.attestation, pem, c.scheme, ""⟩
  | none, false => .ok ⟨c.attestation, "", c.scheme, ""⟩
  | none, true => .error (.certificate (.entryMissing c.attestation c.scheme))

/-- The owner of credentials, without signatures. -/
def ownerOf (owner : OwnerCredentials) : Except Fault Owner := do
  let entries ← owner.credentials.mapM entryOf
  .ok ⟨owner.isPrimary, entries⟩

/-- Owners as they travel, without signatures. -/
def ownersOf (owners : List OwnerCredentials) : Except Fault (List Owner) := owners.mapM ownerOf

/-- The hexadecimal signature of a digest with a private key as armored text. A key that can be read
but gives no signature lets the operation break off. -/
def signDigest (pem digest : String) : Except Fault String :=
  match Rsa.PrivateKey.ofPem pem with
  | .error fault => .error (.key (.key fault))
  | .ok key =>
    match Rsa.sign? key (Utf8.encode digest) with
    | none => .error .breakdown
    | some signature => .ok (Hex.lower signature)

/-- The signature of an entry: empty unless the owner is primary. -/
def entrySignature (isPrimary : Bool) (c : Credential) (digest : String) : Except Fault String :=
  if isPrimary then
    match c.privateKeyPem with
    | none => .error (.key (.entryPrivateKeyMissing c.attestation))
    | some pem => signDigest pem digest
  else .ok ""

/-- The signature of an entry with its place, if its scheme has signatures. -/
def entryRecord (role : OwnerRole) (digest : String) (isPrimary : Bool) (owner : Nat)
    (place : Credential × Nat) : Except Fault (Option SignatureRecord) :=
  if place.1.scheme.isSigned then do
    let signature ← entrySignature isPrimary place.1 digest
    .ok (some ⟨role, owner, place.2, place.1.attestation, signature⟩)
  else .ok none

/-- The signatures of one owner in the order of its entries. -/
def ownerRecords (role : OwnerRole) (digest : String) (place : OwnerCredentials × Nat) :
    Except Fault (List SignatureRecord) := do
  let records ← place.1.credentials.zipIdx.mapM
    (entryRecord role digest place.1.isPrimary place.2)
  .ok (records.filterMap id)

/-- The signatures of one list in the order of owners and entries. -/
def signatureRecords (owners : List OwnerCredentials) (role : OwnerRole) (digest : String) :
    Except Fault (List SignatureRecord) := do
  let records ← owners.zipIdx.mapM (ownerRecords role digest)
  .ok records.flatten

namespace MessageBody

/-- Put one signature into its entry, which must hold the statement that was signed. -/
def attachOne (body : MessageBody) (r : SignatureRecord) : Except Fault MessageBody :=
  let missing : Fault := .owners (.noEntry r.role r.owner r.entry)
  match body.owners? r.role with
  | none => .error missing
  | some owners =>
    match owners[r.owner]? with
    | none => .error missing
    | some owner =>
      match owner.entries[r.entry]? with
      | none => .error missing
      | some entry =>
        if entry.attestation = r.attestation then
          let entries := owner.entries.set r.entry { entry with signature := r.signature }
          .ok (body.withOwners r.role (owners.set r.owner { owner with entries := entries }))
        else .error (.owners (.otherAttestation r.attestation entry.attestation))

/-- Put signatures into their entries one after the other, up to the first that does not fit; also
the body at that point. -/
def attachUntil (body : MessageBody) : List SignatureRecord → MessageBody × Option Fault
  | [] => (body, none)
  | r :: rest =>
    match body.attachOne r with
    | .error fault => (body, some fault)
    | .ok body => body.attachUntil rest

/-- Put signatures into their entries; all of them must fit. -/
def attach (body : MessageBody) (records : List SignatureRecord) : Except Fault MessageBody :=
  match body.attachUntil records with
  | (body, none) => .ok body
  | (_, some fault) => .error fault

end MessageBody

/-- Whether a hexadecimal signature of a text verifies under a key. -/
def verifiesText (key : Rsa.PublicKey) (text signature : String) : Bool :=
  match Hex.decodeText signature with
  | .error _ => false
  | .ok octets => Rsa.verify .sha256 key (Utf8.encode text) octets

/-- Check one entry: its certificate is trusted, and the signature of a primary owner fits. -/
def checkEntry (chains : List Chain) (clock : Clock) (digest : String) (isPrimary : Bool)
    (entry : OwnerEntry) : Except Fault Unit :=
  match validate chains clock entry.certificatePem with
  | .error cause => .error (.chain (.entryRefused entry.attestation cause))
  | .ok false => .error (.chain (.entryUntrusted entry.attestation))
  | .ok true =>
    if !isPrimary then .ok ()
    else if entry.signature = "" then .error (.signature (.entryMissing entry.attestation))
    else do
      let key ← rsaKeyOfPem entry.certificatePem
      if verifiesText key digest entry.signature then .ok ()
      else .error (.signature (.entry entry.attestation))

/-- Check the entries of an owner whose scheme has signatures. -/
def checkOwner (chains : List Chain) (clock : Clock) (digest : String) (owner : Owner) :
    Except Fault Unit :=
  (owner.entries.filter fun e => e.scheme.isSigned).forM
    (checkEntry chains clock digest owner.isPrimary)

/-- Check every owner of a body in order; the first fault counts. -/
def checkAttestations (chains : List Chain) (clock : Clock) (body : MessageBody) :
    Except Fault Unit :=
  let digest := body.attestationDigest
  body.ownerLists.forM fun (_, owners) => owners.forM (checkOwner chains clock digest)

end AttestedPayments
