import AttestedPayments.Clock
import AttestedPayments.Trust.Chain

/-!
# Paths to a trusted root

A certificate is trusted if it is issued by a root, or by an intermediate that is trusted in turn,
where all intermediates belong to the root's chain and each is used at most once.

* `picks` — the ways to take one member out of a list.
* `Chain.reaches` — whether a path leads from a certificate to the root of a chain.
* `validate` — whether a path leads to the root of some chain.
-/

namespace AttestedPayments

/-- The most intermediates on a path. -/
def maxPathDepth : Nat := 8

/-- The ways to take one member out of a list, in order. -/
def picks {α : Type} : List α → List (α × List α)
  | [] => []
  | a :: rest => (a, rest) :: (picks rest).map fun (b, others) => (b, a :: others)

namespace Chain

/-- Whether the root of a chain issued a certificate and may vouch for it at a time. -/
def anchors (chain : Chain) (seconds : Nat) (c : Certificate) : Bool :=
  chain.root.mayIssue && chain.root.isValidAt seconds && c.isIssuedBy chain.root

/-- Whether a path over at most `budget` of the given intermediates leads to the root. -/
def reachesVia (chain : Chain) (seconds : Nat) : Nat → List Certificate → Certificate → Bool
  | 0, _, c => c.isValidAt seconds && chain.anchors seconds c
  | budget + 1, available, c =>
    c.isValidAt seconds &&
      (chain.anchors seconds c ||
        (picks available).any fun (issuer, others) =>
          issuer.mayIssue && c.isIssuedBy issuer &&
            chain.reachesVia seconds budget others issuer)

/-- Whether a path leads from a certificate to the root. -/
def reaches (chain : Chain) (seconds : Nat) (c : Certificate) : Bool :=
  chain.reachesVia seconds maxPathDepth chain.intermediates c

end Chain

/-- Whether a certificate in armored text leads to the root of one of the chains. A certificate that
is signed by its own key is refused, even if it is one of the roots. -/
def validate (chains : List Chain) (clock : Clock) (pem : String) : Except PathFault Bool :=
  match Certificate.ofPem? pem with
  | none => .error .unreadable
  | some client =>
    if client.isSelfSigned then .error (.selfSigned client.subject)
    else .ok (chains.any fun chain => chain.reaches clock.seconds client)

/-- The certificate in an armored text. -/
def Certificate.ofPem (pem : String) : Except Fault Certificate :=
  match Certificate.ofPem? pem with
  | none => .error (.certificate .unreadable)
  | some c => .ok c

/-- The RSA key of a certificate. -/
def Certificate.rsaKey (c : Certificate) : Except Fault Rsa.PublicKey :=
  match c.rsaKey? with
  | none => .error (.certificate (.notRsa c.subject))
  | some key => .ok key

/-- The RSA key of the certificate in an armored text. -/
def rsaKeyOfPem (pem : String) : Except Fault Rsa.PublicKey := do
  let c ← Certificate.ofPem pem
  c.rsaKey

/-- Whether the certificate in an armored text asserts a policy of extended validation. -/
def isExtendedValidationPem (pem : String) : Except Fault Bool := do
  let c ← Certificate.ofPem pem
  .ok c.isExtendedValidation

/-- A set of chains that is not empty. -/
def requireChains (chains : List Chain) : Except ChainFault (List Chain) :=
  if chains.isEmpty then .error .noChains else .ok chains

end AttestedPayments
