import AttestedPayments.Proofs.Certificate.Issuing
import AttestedPayments.Proofs.Der.Identifiers
import AttestedPayments.Trust.Path

/-!
# Which certificates have a policy of extended validation

* `extendedValidationArcs` — the numbers of the known policies.
* `Certificate.Asserts` — the first extension with policies is readable and holds an identifier.
* `Certificate.isExtendedValidation_iff` — some identifier is written with the numbers of a known policy,
  which is weaker than being the identifier of that policy.

Principal results: `isExtendedValidationPem_iff` — which certificates pass;
`accepted_without_known_policy` — one of them has another policy.
-/

set_option autoImplicit false

namespace AttestedPayments

open Der (Oid Element dotted)

/-- The numbers of the policies of extended validation. -/
def extendedValidationArcs : List (List Nat) :=
  [[2, 23, 140, 1, 1],
   [1, 3, 6, 1, 4, 1, 34697, 2, 1],
   [1, 3, 6, 1, 4, 1, 6449, 1, 2, 1, 5, 1],
   [2, 16, 840, 1, 114412, 2, 1],
   [2, 16, 840, 1, 114413, 1, 7, 23, 3],
   [2, 16, 840, 1, 114414, 1, 7, 23, 3],
   [1, 3, 6, 1, 4, 1, 14370, 1, 6],
   [2, 16, 840, 1, 113733, 1, 7, 23, 6],
   [2, 16, 840, 1, 114028, 10, 1, 2],
   [1, 3, 6, 1, 4, 1, 4146, 1, 1]]

theorem extendedValidationPolicies_eq :
    extendedValidationPolicies = extendedValidationArcs.map dotted := by
  decide +kernel

theorem isRooted_of_mem {arcs : List Nat} (h : arcs ∈ extendedValidationArcs) : Oid.IsRooted arcs := by
  revert arcs
  decide

theorem lt_of_mem_arcs {arcs : List Nat} (h : arcs ∈ extendedValidationArcs) :
    ∀ n ∈ arcs, n < 2 ^ 32 := by
  revert arcs
  decide

theorem isExtendedValidationPolicy_text {oid : Oid} (hne : oid.arcs ≠ []) :
    isExtendedValidationPolicy oid.text = true ↔ oid.arcs ∈ extendedValidationArcs := by
  rw [isExtendedValidationPolicy, List.contains_iff_mem, extendedValidationPolicies_eq, Oid.text_eq,
    List.mem_map]
  constructor
  · rintro ⟨arcs, hmem, heq⟩
    obtain ⟨_, _, _, rfl, -⟩ := (isRooted_of_mem hmem).exists_eq
    rwa [← Der.dotted_injective (List.cons_ne_nil _ _) hne heq]
  · exact fun hmem => ⟨_, hmem, rfl⟩

namespace Certificate

/-- The first extension with policies is readable and holds an identifier. -/
def Asserts (c : Certificate) (oid : Oid) : Prop :=
  ∃ value oids, c.extensionValue? certificatePolicies = some value ∧ policies? value = some oids ∧
    oid ∈ oids

theorem text_mem_policies {c : Certificate} {text : String} :
    text ∈ c.policies ↔ ∃ oid, c.Asserts oid ∧ oid.text = text := by
  unfold policies Asserts
  cases hvalue : c.extensionValue? certificatePolicies with
  | none => simp
  | some value =>
    cases hoids : policies? value with
    | none => simp [hoids]
    | some oids => simp [hoids]

theorem isExtendedValidation_iff_text {c : Certificate} :
    c.isExtendedValidation = true ↔
      ∃ oid, c.Asserts oid ∧ isExtendedValidationPolicy oid.text = true := by
  rw [isExtendedValidation, List.any_eq_true]
  constructor
  · rintro ⟨_, hmem, hknown⟩
    obtain ⟨oid, hoid, rfl⟩ := text_mem_policies.mp hmem
    exact ⟨oid, hoid, hknown⟩
  · rintro ⟨oid, hoid, hknown⟩
    exact ⟨_, text_mem_policies.mpr ⟨oid, hoid, rfl⟩, hknown⟩

theorem exists_of_mem_policies? {elements : List Element} {oids : List Oid}
    (h : elements.mapM policy? = some oids) {oid : Oid} (hmem : oid ∈ oids) :
    ∃ e, policy? e = some oid := by
  induction elements generalizing oids with
  | nil =>
    cases h
    cases hmem
  | cons e elements ih =>
    rw [List.mapM_cons, Option.bind_eq_bind, Option.bind_eq_some_iff] at h
    obtain ⟨first, hfirst, h⟩ := h
    obtain ⟨others, hothers, hall⟩ := Option.bind_eq_some_iff.mp h
    cases hall
    obtain rfl | hmem := List.mem_cons.mp hmem
    · exact ⟨e, hfirst⟩
    · exact ih hothers hmem

theorem exists_octets_of_policy? {e : Element} {oid : Oid} (h : policy? e = some oid) :
    ∃ octets, Oid.ofOctets? octets = some oid := by
  have hinner : ∃ inner, Oid.ofElement? inner = some oid := by
    unfold policy? at h
    split at h
    · exact ⟨_, h⟩
    · split at h
      · split at h
        · exact ⟨_, h⟩
        · cases h
      · cases h
    · cases h
  obtain ⟨inner, hinner⟩ := hinner
  rw [Oid.ofElement?] at hinner
  split at hinner
  · exact ⟨_, hinner⟩
  · cases hinner

/-- What a certificate asserts is an identifier that can be read. -/
theorem Asserts.exists_octets {c : Certificate} {oid : Oid} (h : c.Asserts oid) :
    ∃ octets, Oid.ofOctets? octets = some oid := by
  obtain ⟨value, oids, _, hoids, hmem⟩ := h
  obtain ⟨elements, _, hmapped⟩ := Option.bind_eq_some_iff.mp hoids
  obtain ⟨e, he⟩ := exists_of_mem_policies? hmapped hmem
  exact exists_octets_of_policy? he

/-- A certificate passes exactly if the octets of one of its policies write known numbers. -/
theorem isExtendedValidation_iff {c : Certificate} :
    c.isExtendedValidation = true ↔
      ∃ oid, c.Asserts oid ∧ ∃ arcs ∈ extendedValidationArcs, oid.Writes arcs := by
  rw [isExtendedValidation_iff_text]
  refine exists_congr fun oid => and_congr_right fun hasserts => ?_
  obtain ⟨octets, hoctets⟩ := hasserts.exists_octets
  rw [isExtendedValidationPolicy_text (Oid.arcs_ne_nil hoctets)]
  constructor
  · intro hmem
    exact ⟨oid.arcs, hmem, (Oid.arcs_eq_iff hoctets (isRooted_of_mem hmem)).mp rfl⟩
  · rintro ⟨arcs, hmem, hwrites⟩
    rwa [Oid.arcs_of_writes (isRooted_of_mem hmem) hwrites]

end Certificate

theorem isExtendedValidationPem_eq_true {pem : String} :
    isExtendedValidationPem pem = .ok true ↔
      ∃ c, Certificate.ofPem? pem = some c ∧ c.isExtendedValidation = true := by
  unfold isExtendedValidationPem Certificate.ofPem
  cases Certificate.ofPem? pem with
  | none => exact ⟨fun h => (nomatch h), fun ⟨_, h, _⟩ => (nomatch h)⟩
  | some c =>
    constructor
    · intro h
      exact ⟨c, rfl, Except.ok.inj h⟩
    · rintro ⟨_, hc, h⟩
      cases hc
      exact congrArg Except.ok h

/-- **Which certificates pass for extended validation.** A certificate passes exactly if the octets of
one of its policies write the numbers of a known policy, up to multiples of `2 ^ 32` and to zeros in
front. So it passes with a known policy; and if all its policies are written in the shortest way with
numbers below `2 ^ 32`, it passes with nothing else. -/
theorem isExtendedValidationPem_iff (pem : String) :
    (isExtendedValidationPem pem = .ok true ↔
      ∃ c, Certificate.ofPem? pem = some c ∧
        ∃ oid, c.Asserts oid ∧ ∃ arcs ∈ extendedValidationArcs, oid.Writes arcs) ∧
    (∀ c, Certificate.ofPem? pem = some c →
      (∃ arcs ∈ extendedValidationArcs, c.Asserts (Oid.ofArcs arcs)) →
        isExtendedValidationPem pem = .ok true) ∧
    ∀ c, Certificate.ofPem? pem = some c → (∀ oid, c.Asserts oid → oid.IsShortest) →
      (isExtendedValidationPem pem = .ok true ↔
        ∃ arcs ∈ extendedValidationArcs, c.Asserts (Oid.ofArcs arcs)) := by
  have hpasses : isExtendedValidationPem pem = .ok true ↔
      ∃ c, Certificate.ofPem? pem = some c ∧
        ∃ oid, c.Asserts oid ∧ ∃ arcs ∈ extendedValidationArcs, oid.Writes arcs := by
    rw [isExtendedValidationPem_eq_true]
    exact exists_congr fun c => and_congr_right fun _ => Certificate.isExtendedValidation_iff
  have hknown : ∀ c, Certificate.ofPem? pem = some c →
      (∃ arcs ∈ extendedValidationArcs, c.Asserts (Oid.ofArcs arcs)) →
        isExtendedValidationPem pem = .ok true := by
    rintro c hc ⟨arcs, hmem, hasserts⟩
    obtain ⟨octets, hoctets⟩ := hasserts.exists_octets
    have hrooted := isRooted_of_mem hmem
    have hwrites := (Oid.arcs_eq_iff hoctets hrooted).mp
      (Oid.arcs_ofArcs hrooted (lt_of_mem_arcs hmem))
    exact hpasses.mpr ⟨c, hc, _, hasserts, arcs, hmem, hwrites⟩
  refine ⟨hpasses, hknown, fun c hc hshortest => ⟨fun h => ?_, hknown c hc⟩⟩
  obtain ⟨c', hc', oid, hasserts, arcs, hmem, hwrites⟩ := hpasses.mp h
  obtain rfl := Option.some.inj (hc.symm.trans hc')
  have hrooted := isRooted_of_mem hmem
  have hoid := ((hshortest oid hasserts).arcs_eq_iff hrooted (lt_of_mem_arcs hmem)).mp
    (Oid.arcs_of_writes hrooted hwrites)
  exact ⟨arcs, hmem, hoid ▸ hasserts⟩

/-- The certificate `C` below the sample root, with one policy. -/
def sampleHolder (policy : Oid) : Certificate :=
  Certificate.issue sampleKey (sampleBody 2 [67] [⟨Certificate.certificatePolicies, false,
    (Element.sequence [Element.sequence [policy.toElement]]).encode⟩])

theorem extensionValue?_sampleHolder (policy : Oid) :
    (sampleHolder policy).extensionValue? Certificate.certificatePolicies =
      some (Element.sequence [Element.sequence [policy.toElement]]).encode := by
  simp [sampleHolder, Certificate.issue, sampleBody, Certificate.extensionValue?]

theorem asserts_sampleHolder {policy oid : Oid}
    (h : Certificate.policies?
      (Element.sequence [Element.sequence [policy.toElement]]).encode = some [policy]) :
    (sampleHolder policy).Asserts oid ↔ oid = policy := by
  constructor
  · rintro ⟨value, oids, hvalue, hoids, hmem⟩
    cases (extensionValue?_sampleHolder policy).symm.trans hvalue
    cases h.symm.trans hoids
    exact List.mem_singleton.mp hmem
  · rintro rfl
    exact ⟨_, _, extensionValue?_sampleHolder _, h, List.mem_singleton_self _⟩

theorem sampleClient_passes :
    isExtendedValidationPem sampleClient.toPem = .ok true ∧
      (isExtendedValidationPem sampleClient.toPem = .ok true ↔
        ∃ arcs ∈ extendedValidationArcs, sampleClient.Asserts (Oid.ofArcs arcs)) := by
  have hasserts {oid : Oid} : sampleClient.Asserts oid ↔ oid = Oid.ofArcs [2, 23, 140, 1, 1] :=
    asserts_sampleHolder (by decide +kernel)
  have hshortest : (Oid.ofArcs [2, 23, 140, 1, 1]).IsShortest :=
    ⟨103, [140, 1, 1], by decide, by decide +kernel⟩
  obtain ⟨_, hknown, hall⟩ := isExtendedValidationPem_iff sampleClient.toPem
  refine ⟨hknown _ ofPem?_sampleClient ⟨_, List.mem_cons_self, hasserts.mpr rfl⟩,
    hall _ ofPem?_sampleClient fun oid h => ?_⟩
  rw [hasserts.mp h]
  exact hshortest

/-- The numbers of the common policy, but one of them is greater by `2 ^ 32`. -/
def oversizedPolicy : Oid := ⟨[0x67, 0x81, 0x0c, 0x90, 0x80, 0x80, 0x80, 0x01, 0x01]⟩

/-- The numbers of the common policy, with a zero in front of one of them. -/
def paddedPolicy : Oid := ⟨[0x67, 0x81, 0x0c, 0x80, 0x01, 0x01]⟩

/-- The certificate `C` asserts a policy and no other one, which is not known, and passes. -/
structure PassesWith (policy : Oid) : Prop where
  readable : Certificate.ofPem? (sampleHolder policy).toPem = some (sampleHolder policy)
  asserts_iff : ∀ oid, (sampleHolder policy).Asserts oid ↔ oid = policy
  unknown : ∀ arcs ∈ extendedValidationArcs, policy ≠ Oid.ofArcs arcs
  passes : isExtendedValidationPem (sampleHolder policy).toPem = .ok true

theorem passesWith_of_mem : ∀ policy ∈ [oversizedPolicy, paddedPolicy], PassesWith policy := by
  have hread : ∀ policy ∈ [oversizedPolicy, paddedPolicy], Certificate.ofArmored? (trimOctets
      (Armor.octets Certificate.label (sampleHolder policy).toElement.encode)) =
        some (sampleHolder policy) := by
    decide +kernel
  have hpolicies : ∀ policy ∈ [oversizedPolicy, paddedPolicy], Certificate.policies?
      (Element.sequence [Element.sequence [policy.toElement]]).encode = some [policy] := by
    decide +kernel
  have hunknown : ∀ policy ∈ [oversizedPolicy, paddedPolicy], ∀ arcs ∈ extendedValidationArcs,
      policy ≠ Oid.ofArcs arcs := by
    decide +kernel
  have hpasses : ∀ policy ∈ [oversizedPolicy, paddedPolicy],
      (sampleHolder policy).isExtendedValidation = true := by
    decide +kernel
  intro policy hmem
  have hpem := Certificate.ofPem?_toPem (hread policy hmem)
  exact ⟨hpem, fun oid => asserts_sampleHolder (hpolicies policy hmem), hunknown policy hmem,
    isExtendedValidationPem_eq_true.mpr ⟨_, hpem, hpasses policy hmem⟩⟩

/-- **A certificate passes without a known policy.** -/
theorem accepted_without_known_policy : PassesWith oversizedPolicy ∧ PassesWith paddedPolicy := by
  obtain ⟨hoversized, hpadded⟩ := List.forall_mem_cons.mp passesWith_of_mem
  exact ⟨hoversized, List.forall_mem_singleton.mp hpadded⟩

end AttestedPayments
