import AttestedPayments.Fault

/-!
# Faults up to what they name

* `FaultKind` — what a fault is about, without its cause.
* `Fault.expecting` — a fault with another expected kind of message in it. Only octets that are no
  envelope get a fault that names the kind which they were read for.
-/

set_option autoImplicit false

namespace AttestedPayments

/-- What a fault is about. -/
inductive FaultKind where
  | object
  | signature
  | certificate
  | chain
  | owners
  | encryption
  | key
  | unsupported
  | lookup
  | breakdown
  deriving DecidableEq, Repr

/-- What a fault is about. -/
def Fault.kind : Fault → FaultKind
  | object _ => .object
  | signature _ => .signature
  | certificate _ => .certificate
  | chain _ => .chain
  | owners _ => .owners
  | encryption _ => .encryption
  | key _ => .key
  | unsupported _ => .unsupported
  | lookup _ => .lookup
  | breakdown => .breakdown

/-- The fault of the same octets when they are read for another kind of message. -/
def Fault.expecting (type : MessageType) : Fault → Fault
  | object (.badEnvelope _ cause) => .object (.badEnvelope type cause)
  | fault => fault

namespace Fault

variable (type : MessageType)

/-- It is a fault about the same. -/
@[simp] theorem kind_expecting (fault : Fault) : (fault.expecting type).kind = fault.kind := by
  unfold expecting
  split <;> rfl

/-- A fault that names no expected kind stays as it is; otherwise the named kind is the only
difference. -/
theorem expecting_eq_self_or (fault : Fault) :
    fault.expecting type = fault ∨ ∃ named cause, fault = object (.badEnvelope named cause) ∧
      fault.expecting type = object (.badEnvelope type cause) := by
  unfold expecting
  split
  · exact .inr ⟨_, _, rfl, rfl⟩
  · exact .inl rfl

end Fault

end AttestedPayments
