import AttestedPayments.Proofs.Faults
import AttestedPayments.Proofs.Results
import AttestedPayments.Proofs.Wire.Canonical
import AttestedPayments.Exchange.Reading

/-!
# All ways of reading a message agree

A message is read and checked as one of any kind, or as one of an expected kind. Both go through
`openExpecting`; the expected kind is compared after opening, and is named in the fault of octets that
are no envelope.

* `openExpecting_eq_mapError` — reading for one kind and for any kind gives the same, up to the kind
  that a fault names.
* `Agreement`, `Refusal` — what all ways of reading give for octets that can be opened, and for others.
* `agreement_of_parse`, `refusal_of_parse` — one of them holds for any octets.
-/

set_option autoImplicit false

namespace AttestedPayments

variable {α β : Type}

/-! ## Steps that name an expected kind -/

/-- A step whose faults name no expected kind. -/
def NamesNoKind (x : Except Fault α) : Prop :=
  ∀ type, x.mapError (Fault.expecting type) = x

/-- Two sequences of steps differ in their faults as their steps do. -/
theorem bind_eq_mapError {g : Fault → Fault} {x x' : Except Fault α} {f f' : α → Except Fault β}
    (hx : x' = x.mapError g) (hf : ∀ a, f' a = (f a).mapError g) :
    (x' >>= f') = (x >>= f).mapError g := by
  subst hx
  cases x with
  | error fault => rfl
  | ok a => exact hf a

theorem namesNoKind_ok (a : α) : NamesNoKind (.ok a) := fun _ => rfl

theorem NamesNoKind.bind {x : Except Fault α} {f : α → Except Fault β} (hx : NamesNoKind x)
    (hf : ∀ a, NamesNoKind (f a)) : NamesNoKind (x >>= f) := by
  intro type
  exact (bind_eq_mapError (hx type).symm fun a => (hf a type).symm).symm

theorem namesNoKind_liftSealing (x : Except SealingFault α) : NamesNoKind (liftSealing x) := by
  intro type
  cases x <;> rfl

theorem namesNoKind_liftKey (x : Except KeyFault α) : NamesNoKind (liftKey x) := by
  intro type
  cases x <;> rfl

theorem namesNoKind_body (e : PlainEnvelope) : NamesNoKind e.body := by
  intro type
  unfold PlainEnvelope.body
  split <;> rfl

theorem namesNoKind_checkSignature (e : EncryptedEnvelope) : NamesNoKind e.checkSignature := by
  refine (namesNoKind_liftKey _).bind fun key type => ?_
  split
  · rfl
  · split <;> rfl

/-! ## Opening -/

theorem Envelope.decode_eq_mapError (expected : MessageType) (octets : Bytes) :
    Envelope.decode expected octets =
      (Envelope.decode .unknown octets).mapError (Fault.expecting expected) := by
  unfold Envelope.decode
  split <;> rfl

theorem EncryptedEnvelope.decrypt_eq_mapError (e : EncryptedEnvelope) (expected : MessageType)
    (reader : Option EncryptionKeys) :
    e.decrypt expected reader =
      (e.decrypt .unknown reader).mapError (Fault.expecting expected) := by
  refine bind_eq_mapError (namesNoKind_checkSignature e expected).symm fun _ => ?_
  cases reader.bind EncryptionKeys.privateKeyPem with
  | none => rfl
  | some secretPem =>
    refine bind_eq_mapError (namesNoKind_liftSealing _ expected).symm fun octets => ?_
    refine bind_eq_mapError (Envelope.decode_eq_mapError expected octets) fun inner => ?_
    cases inner with
    | encrypted _ => rfl
    | plain inner =>
      dsimp only
      split <;> rfl

/-- **Reading for one kind and for any kind gives the same**, up to the kind that a fault names. -/
theorem openExpecting_eq_mapError (octets : Bytes) (expected : MessageType)
    (reader : Option EncryptionKeys) :
    openExpecting octets expected reader =
      (openMessage octets reader).mapError (Fault.expecting expected) := by
  refine bind_eq_mapError (Envelope.decode_eq_mapError expected octets) fun e => ?_
  cases e with
  | plain e =>
    exact ((namesNoKind_body e).bind (fun _ => namesNoKind_ok _) expected).symm
  | encrypted e =>
    refine bind_eq_mapError (e.decrypt_eq_mapError expected reader) fun inner => ?_
    exact ((namesNoKind_body inner).bind (fun _ => namesNoKind_ok _) expected).symm

/-! ## What all ways of reading give -/

section

variable (chains : List Chain) (clock : Clock) (octets : Bytes) (recipient : Option Recipient)

/-- What all ways of reading and checking give for octets that can be opened. -/
structure Agreement (opened : OpenedMessage) : Prop where
  /-- The kind is one of the four kinds of messages. -/
  kind_ne : opened.body.messageType ≠ .unknown
  kind_eq : messageType octets recipient = .ok opened.body.messageType
  /-- Who expects this kind reads the same, and gets a body of this kind. -/
  parseAs_kind : parseAs opened.body.messageType octets recipient = .ok opened
  as_kind : opened.body.as opened.body.messageType = .ok opened.body
  /-- Who expects this kind comes to the same result of checking. -/
  isValidAs_kind : isValidAs opened.body.messageType chains clock octets recipient =
    isValid chains clock octets recipient
  /-- Who expects another kind refuses. -/
  parseAs_other : ∀ other, other ≠ opened.body.messageType →
    parseAs other octets recipient = .error (.object (.heldType other opened.body.messageType))
  isValidAs_other : ∀ other, other ≠ opened.body.messageType →
    isValidAs other chains clock octets recipient =
      .error (.object (.heldType other opened.body.messageType))

/-- What all ways of reading and checking give for octets that cannot be opened. -/
structure Refusal (fault : Fault) : Prop where
  kind_eq : messageType octets recipient = .error fault
  isValid_eq : isValid chains clock octets recipient = .error fault
  /-- Who expects a kind gets the same fault, in which that kind is named. -/
  parseAs_eq : ∀ type, parseAs type octets recipient = .error (fault.expecting type)
  isValidAs_eq : ∀ type,
    isValidAs type chains clock octets recipient = .error (fault.expecting type)
  /-- It is a fault about the same; a kind that it names is the only difference. -/
  sameFault : ∀ type, (fault.expecting type).kind = fault.kind ∧
    (fault.expecting type = fault ∨ ∃ named cause, fault = .object (.badEnvelope named cause) ∧
      fault.expecting type = .object (.badEnvelope type cause))

end

variable {chains : List Chain} {clock : Clock} {octets : Bytes} {recipient : Option Recipient}

theorem parseAs_of_parse {opened : OpenedMessage} (h : parse octets recipient = .ok opened)
    (type : MessageType) :
    parseAs type octets recipient =
      if opened.body.messageType = type then .ok opened
      else .error (.object (.heldType type opened.body.messageType)) := by
  have h : openMessage octets (recipientKeys recipient) = .ok opened := h
  rw [parseAs, openKind, openExpecting_eq_mapError, h]
  rfl

/-- What is read as a message of one kind is read so as one of any kind. -/
theorem parse_of_parseAs {type : MessageType} {opened : OpenedMessage}
    (h : parseAs type octets recipient = .ok opened) : parse octets recipient = .ok opened := by
  obtain ⟨found, hfound, hkind⟩ := bind_eq_ok_iff.mp h
  -- a map on faults makes no fault a success, so both opened the same
  rw [openExpecting_eq_mapError] at hfound
  unfold parse
  cases hopen : openMessage octets (recipientKeys recipient) with
  | error fault =>
    rw [hopen] at hfound
    cases hfound
  | ok other =>
    rw [hopen] at hfound
    cases hfound
    split at hkind
    · exact hkind
    · cases hkind

/-- What is read as a message of one kind is one of that kind. -/
theorem messageType_of_parseAs {type : MessageType} {opened : OpenedMessage}
    (h : parseAs type octets recipient = .ok opened) : opened.body.messageType = type := by
  obtain ⟨found, _, hkind⟩ := bind_eq_ok_iff.mp h
  obtain ⟨htype, rfl⟩ := ite_ok_eq_ok_iff.mp hkind
  exact htype

theorem agreement_of_parse {opened : OpenedMessage} (h : parse octets recipient = .ok opened) :
    Agreement chains clock octets recipient opened := by
  have hkind : parseAs opened.body.messageType octets recipient = .ok opened := by
    rw [parseAs_of_parse h, if_pos rfl]
  have hother : ∀ other, other ≠ opened.body.messageType →
      parseAs other octets recipient =
        .error (.object (.heldType other opened.body.messageType)) := by
    intro other hne
    rw [parseAs_of_parse h, if_neg hne.symm]
  exact
    { kind_ne := opened.body.messageType_ne_unknown
      kind_eq := by rw [messageType, h]; rfl
      parseAs_kind := hkind
      as_kind := if_pos rfl
      isValidAs_kind := by rw [isValidAs, isValid, hkind, h]
      parseAs_other := hother
      isValidAs_other := fun other hne => by rw [isValidAs, hother other hne]; rfl }

theorem refusal_of_parse {fault : Fault} (h : parse octets recipient = .error fault) :
    Refusal chains clock octets recipient fault := by
  have hparseAs : ∀ type, parseAs type octets recipient = .error (fault.expecting type) := by
    intro type
    have h : openMessage octets (recipientKeys recipient) = .error fault := h
    rw [parseAs, openKind, openExpecting_eq_mapError, h]
    rfl
  exact
    { kind_eq := by rw [messageType, h]; rfl
      isValid_eq := by rw [isValid, h]; rfl
      parseAs_eq := hparseAs
      isValidAs_eq := fun type => by rw [isValidAs, hparseAs]; rfl
      sameFault := fun type => ⟨fault.kind_expecting type, fault.expecting_eq_self_or type⟩ }

end AttestedPayments
