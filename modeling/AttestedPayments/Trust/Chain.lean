import AttestedPayments.Certificate.Issuance
import AttestedPayments.Fault

/-!
# Chains of trust

* `Chain` — a certificate that is signed by its own key, and certificates below it that are not.
* `Chain.ofParts`, `Chain.ofPems` — a chain whose parts are told apart by the caller.
* `Chain.ofBundle` — a chain from the certificates of one file in any order.
-/

namespace AttestedPayments

/-- A root that is signed by its own key, and intermediates that are not. -/
structure Chain where
  root : Certificate
  intermediates : List Certificate
  rootSelfSigned : root.isSelfSigned = true
  othersIssued : ∀ c ∈ intermediates, c.isSelfSigned = false

namespace Chain

/-- The chain of a root and intermediates. -/
def ofParts (root : Certificate) (intermediates : List Certificate) : Except ChainFault Chain :=
  if hr : root.isSelfSigned = true then
    match hi : intermediates.find? Certificate.isSelfSigned with
    | some bad => .error (.intermediateSelfSigned bad.subject)
    | none =>
      .ok ⟨root, intermediates, hr, fun c hc => by
        have := List.find?_eq_none.mp hi c hc
        simpa using this⟩
  else .error (.rootNotSelfSigned root.subject)

/-- The certificates of armored texts, in order. -/
def certificates (pems : List String) : Except Fault (List Certificate) :=
  match pems.mapM Certificate.ofPem? with
  | some list => .ok list
  | none => .error (.certificate .unreadable)

/-- A fault of a chain as a fault of the whole operation. -/
def lift {α : Type} : Except ChainFault α → Except Fault α
  | .error fault => .error (.chain fault)
  | .ok a => .ok a

/-- The chain of a root and intermediates as armored text. -/
def ofPems (root : String) (intermediates : List String) : Except Fault Chain := do
  let list ← certificates (root :: intermediates)
  match list with
  | [] => .error (.certificate .unreadable)
  | root :: intermediates => lift (ofParts root intermediates)

/-- The chain of certificates of which exactly one is signed by its own key. The name of their
source goes into faults. -/
def ofCertificates (source : String) (list : List Certificate) : Except ChainFault Chain :=
  if list = [] then .error (.emptyBundle source)
  else
    let (roots, others) := list.partition Certificate.isSelfSigned
    match roots with
    | [] => .error (.noRoot source)
    | [root] => ofParts root others
    | _ => .error (.manyRoots source roots.length)

/-- The chain of the certificates in a file. -/
def ofBundle (source : String) (file : Bytes) : Except ChainFault Chain :=
  match Certificate.ofBundle? file with
  | none => .error (.unreadableBundle source)
  | some list => ofCertificates source list

end Chain

end AttestedPayments
