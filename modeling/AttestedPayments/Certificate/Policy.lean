import AttestedPayments.Certificate.Basic

/-!
# What extensions say about a certificate

* `Certificate.mayIssue` — whether the holder may sign other certificates.
* `Certificate.policies` — the policies that a certificate asserts, as dotted numbers.
* `Certificate.isExtendedValidation` — whether one of them is known as a policy of extended
  validation.

Of several extensions with one identifier the first counts. An extension whose value cannot be read
counts as absent.
-/

namespace AttestedPayments

open Der (Oid Element)

/-- The policies of extended validation: the common one, then those of single issuers. -/
def extendedValidationPolicies : List String :=
  ["2.23.140.1.1",
   "1.3.6.1.4.1.34697.2.1",
   "1.3.6.1.4.1.6449.1.2.1.5.1",
   "2.16.840.1.114412.2.1",
   "2.16.840.1.114413.1.7.23.3",
   "2.16.840.1.114414.1.7.23.3",
   "1.3.6.1.4.1.14370.1.6",
   "2.16.840.1.113733.1.7.23.6",
   "2.16.840.1.114028.10.1.2",
   "1.3.6.1.4.1.4146.1.1"]

/-- Whether dotted numbers are a policy of extended validation. -/
def isExtendedValidationPolicy (policy : String) : Bool :=
  extendedValidationPolicies.contains policy

namespace Certificate

/-- The identifier of the extension that tells issuers from others. -/
def basicConstraints : Oid := Oid.ofArcs [2, 5, 29, 19]

/-- The identifier of the extension with policies. -/
def certificatePolicies : Oid := Oid.ofArcs [2, 5, 29, 32]

/-- The value of the first extension with an identifier. -/
def extensionValue? (c : Certificate) (oid : Oid) : Option Bytes :=
  ((c.body.extensions.getD []).find? fun x => x.oid == oid).map Extension.value

/-- The greatest bound on the length of a path. -/
def maxPathLength : Nat := 255

/-- Whether an element bounds the length of a path. -/
def isPathLength (e : Element) : Bool := e.natural?.any (· ≤ maxPathLength)

/-- Whether constraints make their holder an issuer: a truth value, false if it is missing, and
then an optional bound on paths. -/
def issuerFlag? (value : Bytes) : Option Bool :=
  match Element.readSequence value with
  | none => none
  | some [] => some false
  | some [e] => if isPathLength e then some false else e.boolean?
  | some [e, bound] => if isPathLength bound then e.boolean? else none
  | some _ => none

/-- Whether the holder may sign other certificates; one without constraints may. -/
def mayIssue (c : Certificate) : Bool :=
  ((c.extensionValue? basicConstraints).bind issuerFlag?).getD true

/-- Whether an element is an identifier with at most one value of any kind. -/
def isQualifier (e : Element) : Bool :=
  match e.elements? with
  | some [oid] => (Oid.ofElement? oid).isSome
  | some [oid, _] => (Oid.ofElement? oid).isSome
  | _ => false

/-- The identifier of a policy; its qualifiers only have to be well formed. -/
def policy? (e : Element) : Option Oid :=
  match e.elements? with
  | some [oid] => Oid.ofElement? oid
  | some [oid, qualifiers] =>
    match qualifiers.elements? with
    | some list => if list.all isQualifier then Oid.ofElement? oid else none
    | none => none
  | _ => none

/-- The identifiers of a list of policies. -/
def policies? (value : Bytes) : Option (List Oid) :=
  (Element.readSequence value).bind fun elements => elements.mapM policy?

/-- The policies that a certificate asserts, as dotted numbers. -/
def policies (c : Certificate) : List String :=
  (((c.extensionValue? certificatePolicies).bind policies?).getD []).map Oid.text

/-- Whether a certificate asserts a policy of extended validation. -/
def isExtendedValidation (c : Certificate) : Bool := c.policies.any isExtendedValidationPolicy

end Certificate

end AttestedPayments
