import AttestedPayments.Proofs.Trust.Paths

/-!
# Trust does not depend on the order of certificates

* `Chain.SameMembers` — chains that differ in the order of their intermediates only.
* `Chain.SameMembers.reaches_eq` — such chains have the same paths, so the search, whose course depends
  on the order, has the same result in both.
* `Chain.ofCertificates_of_one`, `Chain.ofCertificates_of_ne` — certificates make a chain exactly if one
  of them is signed by its own key.

Principal result: `trust_ignores_order` — validation does not depend on the order of chains and of their
intermediates, and neither does what is made of the certificates of a file.
-/

set_option autoImplicit false

namespace AttestedPayments

namespace Chain

variable {a b : Chain} {seconds : Nat} {c : Certificate} {path : List Certificate}

/-! ## The order of intermediates -/

/-- The chains have the same root, and the same intermediates in some order. -/
structure SameMembers (a b : Chain) : Prop where
  root_eq : a.root = b.root
  perm : a.intermediates.Perm b.intermediates

namespace SameMembers

theorem symm (h : a.SameMembers b) : b.SameMembers a := ⟨h.root_eq.symm, h.perm.symm⟩

theorem isPath (h : a.SameMembers b) (hpath : a.IsPath seconds c path) :
    b.IsPath seconds c path := by
  obtain ⟨intermediate, issued, issuers, valid⟩ := hpath
  rw [h.root_eq] at issued issuers valid
  exact ⟨fun x hx => h.perm.mem_iff.mp (intermediate x hx), issued, issuers, valid⟩

/-- **The search has the same result in both chains**: it finds a path exactly if there is one. -/
theorem reaches_eq (h : a.SameMembers b) : a.reaches seconds c = b.reaches seconds c := by
  rw [Bool.eq_iff_iff, reaches_iff, reaches_iff]
  constructor
  · rintro ⟨path, hlen, hpath⟩
    exact ⟨path, hlen, h.isPath hpath⟩
  · rintro ⟨path, hlen, hpath⟩
    exact ⟨path, hlen, h.symm.isPath hpath⟩

end SameMembers

/-! ## The chain of certificates in any order -/

variable {source : String} {list list' : List Certificate}

/-- The fault of certificates of which not exactly one is signed by its own key. -/
def rootsFault (source : String) (list : List Certificate) : ChainFault :=
  if list = [] then .emptyBundle source
  else
    match list.countP Certificate.isSelfSigned with
    | 0 => .noRoot source
    | n => .manyRoots source n

theorem rootsFault_eq_of_perm (h : list.Perm list') : rootsFault source list = rootsFault source list' := by
  have hnil : list = [] ↔ list' = [] :=
    ⟨fun hl => (hl ▸ h).nil_eq.symm, fun hl => (hl ▸ h).eq_nil⟩
  simp only [rootsFault, hnil, h.countP_eq]

/-- A root and intermediates that are told apart rightly make a chain. -/
theorem ofParts_eq_ok {root : Certificate} {others : List Certificate}
    (hroot : root.isSelfSigned = true) (hothers : ∀ c ∈ others, c.isSelfSigned = false) :
    ofParts root others = .ok ⟨root, others, hroot, hothers⟩ := by
  have hnone : others.find? Certificate.isSelfSigned = none := by
    rw [List.find?_eq_none]
    intro c hc
    rw [hothers c hc]
    exact Bool.false_ne_true
  rw [ofParts, dif_pos hroot]
  split
  · rename_i hbad
    rw [hnone] at hbad
    cases hbad
  · rfl

/-- Certificates of which one is signed by its own key make a chain of all of them. -/
theorem ofCertificates_of_one (source : String) {root : Certificate}
    (h : list.filter Certificate.isSelfSigned = [root]) :
    ∃ chain, ofCertificates source list = .ok chain ∧ chain.root = root ∧
      chain.intermediates = list.filter (not ∘ Certificate.isSelfSigned) := by
  have hne : list ≠ [] := by
    rintro rfl
    cases h
  have hroot : root.isSelfSigned = true :=
    (List.mem_filter.mp (h ▸ List.mem_singleton_self root)).2
  have hothers : ∀ c ∈ list.filter (not ∘ Certificate.isSelfSigned), c.isSelfSigned = false := by
    intro c hc
    simpa using (List.mem_filter.mp hc).2
  refine ⟨⟨root, _, hroot, hothers⟩, ?_, rfl, rfl⟩
  rw [ofCertificates, if_neg hne, List.partition_eq_filter_filter, h]
  exact ofParts_eq_ok hroot hothers

theorem ofCertificates_of_ne (h : list.countP Certificate.isSelfSigned ≠ 1) :
    ofCertificates source list = .error (rootsFault source list) := by
  unfold ofCertificates rootsFault
  split
  · rfl
  rw [List.countP_eq_length_filter] at h ⊢
  rw [List.partition_eq_filter_filter]
  match hroots : list.filter Certificate.isSelfSigned with
  | [] => rfl
  | [_] =>
    rw [hroots] at h
    exact absurd rfl h
  | _ :: _ :: _ => rfl

/-- **The same certificates in another order** have the same fault, or make chains that differ in the
order of their intermediates only. -/
theorem ofCertificates_of_perm (source : String) (h : list.Perm list') :
    (∃ fault, ofCertificates source list = .error fault ∧
      ofCertificates source list' = .error fault) ∨
    ∃ a b, ofCertificates source list = .ok a ∧ ofCertificates source list' = .ok b ∧
      a.SameMembers b := by
  by_cases hone : list.countP Certificate.isSelfSigned = 1
  · right
    have hlength := hone
    rw [List.countP_eq_length_filter, List.length_eq_one_iff] at hlength
    obtain ⟨root, hroot⟩ := hlength
    have hroot' : list'.filter Certificate.isSelfSigned = [root] :=
      List.perm_singleton.mp (hroot ▸ (h.filter _).symm)
    obtain ⟨a, ha, haRoot, haOthers⟩ := ofCertificates_of_one source hroot
    obtain ⟨b, hb, hbRoot, hbOthers⟩ := ofCertificates_of_one source hroot'
    refine ⟨a, b, ha, hb, haRoot.trans hbRoot.symm, ?_⟩
    rw [haOthers, hbOthers]
    exact h.filter _
  · left
    refine ⟨_, ofCertificates_of_ne hone, ?_⟩
    rw [rootsFault_eq_of_perm h]
    exact ofCertificates_of_ne (h.countP_eq _ ▸ hone)

end Chain

/-! ## The order of chains -/

variable {chains others : List Chain}

theorem any_reaches_eq_of_forall₂ {seconds : Nat} {c : Certificate}
    (h : List.Forall₂ Chain.SameMembers chains others) :
    (chains.any fun chain => chain.reaches seconds c) =
      others.any fun chain => chain.reaches seconds c := by
  induction h with
  | nil => rfl
  | cons hsame _ ih => rw [List.any_cons, List.any_cons, hsame.reaches_eq, ih]

/-- Validation looks at chains only through the paths in them. -/
theorem validate_eq_of_any_reaches {clock : Clock} {pem : String}
    (h : ∀ c, (chains.any fun chain => chain.reaches clock.seconds c) =
      others.any fun chain => chain.reaches clock.seconds c) :
    validate chains clock pem = validate others clock pem := by
  simp only [validate, h]

theorem validate_eq_of_forall₂ {clock : Clock} {pem : String}
    (h : List.Forall₂ Chain.SameMembers chains others) :
    validate chains clock pem = validate others clock pem :=
  validate_eq_of_any_reaches fun _ => any_reaches_eq_of_forall₂ h

theorem validate_eq_of_perm {clock : Clock} {pem : String} (h : chains.Perm others) :
    validate chains clock pem = validate others clock pem :=
  validate_eq_of_any_reaches fun _ => h.any_eq

/-- **Trust does not depend on order.** Validation has the same result for chains in any order with
their intermediates in any order; and two files with the same certificates in any order have the same
fault, or make chains of the same root and the same intermediates, one of which may stand for the other
in every validation. -/
theorem trust_ignores_order :
    (∀ (chains reordered others : List Chain) (clock : Clock) (pem : String),
      List.Forall₂ Chain.SameMembers chains reordered → reordered.Perm others →
        validate chains clock pem = validate others clock pem) ∧
    ∀ (source : String) (file file' : Bytes) (list list' : List Certificate),
      Certificate.ofBundle? file = some list → Certificate.ofBundle? file' = some list' →
      list.Perm list' →
        (∃ fault, Chain.ofBundle source file = .error fault ∧
          Chain.ofBundle source file' = .error fault) ∨
        ∃ a b, Chain.ofBundle source file = .ok a ∧ Chain.ofBundle source file' = .ok b ∧
          a.root = b.root ∧ a.intermediates.Perm b.intermediates ∧
          ∀ rest clock pem, validate (a :: rest) clock pem = validate (b :: rest) clock pem := by
  refine ⟨fun chains reordered others clock pem hsame hperm => ?_,
    fun source file file' list list' hfile hfile' hperm => ?_⟩
  · exact (validate_eq_of_forall₂ hsame).trans (validate_eq_of_perm hperm)
  · simp only [Chain.ofBundle, hfile, hfile']
    obtain hfault | ⟨a, b, ha, hb, hsame⟩ := Chain.ofCertificates_of_perm source hperm
    · exact .inl hfault
    · refine .inr ⟨a, b, ha, hb, hsame.root_eq, hsame.perm, fun rest clock pem => ?_⟩
      exact validate_eq_of_forall₂ (.cons hsame (List.forall₂_same.mpr fun _ _ => ⟨rfl, .refl _⟩))

/-- The certificate `I` below the sample root. -/
def sampleIntermediate : Certificate := Certificate.issue sampleKey (sampleBody 3 [73] [])

theorem sampleIntermediate_isSelfSigned : sampleIntermediate.isSelfSigned = false :=
  isSelfSigned_issue_sampleBody 3 _ (by decide)

/-- The sample root with two certificates below it. -/
def sampleTrio (first second : Certificate) (hfirst : first.isSelfSigned = false)
    (hsecond : second.isSelfSigned = false) : Chain :=
  ⟨sampleRoot, [first, second], sampleRoot_isSelfSigned, by simp [hfirst, hsecond]⟩

theorem sameMembers_sampleTrio {first second : Certificate} (hfirst : first.isSelfSigned = false)
    (hsecond : second.isSelfSigned = false) :
    (sampleTrio first second hfirst hsecond).SameMembers (sampleTrio second first hsecond hfirst) :=
  ⟨rfl, .swap _ _ _⟩

/-- A file with two certificates. -/
def samplePair (first second : Certificate) : Bytes :=
  Utf8.encode first.toPem ++ Utf8.encode second.toPem

theorem ofBundle?_rootFirst : Certificate.ofBundle? (samplePair sampleRoot sampleClient) =
    some [sampleRoot, sampleClient] := by
  rw [samplePair, Certificate.encode_toPem, Certificate.encode_toPem]
  decide +kernel

theorem ofBundle?_rootLast : Certificate.ofBundle? (samplePair sampleClient sampleRoot) =
    some [sampleClient, sampleRoot] := by
  rw [samplePair, Certificate.encode_toPem, Certificate.encode_toPem]
  decide +kernel

theorem sampleTrio_reordered :
    (∀ clock pem,
      validate [sampleTrio sampleClient sampleIntermediate sampleClient_isSelfSigned
          sampleIntermediate_isSelfSigned, sampleChain] clock pem =
        validate [sampleChain, sampleTrio sampleIntermediate sampleClient
          sampleIntermediate_isSelfSigned sampleClient_isSelfSigned] clock pem) ∧
    Certificate.ofBundle? (samplePair sampleRoot sampleClient) = some [sampleRoot, sampleClient] ∧
    Certificate.ofBundle? (samplePair sampleClient sampleRoot) = some [sampleClient, sampleRoot] ∧
    ∃ a b, Chain.ofBundle "pair" (samplePair sampleRoot sampleClient) = .ok a ∧
      Chain.ofBundle "pair" (samplePair sampleClient sampleRoot) = .ok b ∧ a.root = b.root := by
  have hfile := ofBundle?_rootFirst
  have hfile' := ofBundle?_rootLast
  have hone : [sampleRoot, sampleClient].filter Certificate.isSelfSigned = [sampleRoot] := by
    simp [sampleRoot_isSelfSigned, sampleClient_isSelfSigned]
  obtain ⟨hchains, hbundles⟩ := trust_ignores_order
  refine ⟨fun clock pem => ?_, hfile, hfile', ?_⟩
  · have hsame := sameMembers_sampleTrio sampleClient_isSelfSigned sampleIntermediate_isSelfSigned
    exact hchains _ _ _ clock pem (.cons hsame (.cons ⟨rfl, .refl _⟩ .nil)) (.swap _ _ _)
  · obtain ⟨fault, hfault, _⟩ | ⟨a, b, ha, hb, hroot, _⟩ :=
      hbundles "pair" _ _ _ _ hfile hfile' (.swap _ _ _)
    · obtain ⟨chain, hchain, _⟩ := Chain.ofCertificates_of_one "pair" hone
      rw [Chain.ofBundle, hfile] at hfault
      cases hchain.symm.trans hfault
    · exact ⟨a, b, ha, hb, hroot⟩

end AttestedPayments
