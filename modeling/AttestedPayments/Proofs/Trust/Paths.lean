import AttestedPayments.Proofs.Certificate.Issuing
import AttestedPayments.Proofs.Results
import AttestedPayments.Trust.Path
import Mathlib.Data.List.Chain
import Mathlib.Data.List.Nodup

/-!
# The search for a path finds one exactly if there is one

* `Chain.IsPath` — a list of intermediates leads from a certificate to the root of a chain.
* `Chain.IsPath.exists_nodup` — a path that uses an intermediate twice can be cut short.
* `Chain.exists_isPath_of_reachesVia`, `Chain.reachesVia_of_isPath` — the search, which uses every
  intermediate at most once and gives up at a depth, finds only paths, and misses none up to that
  depth.

Principal result: `validate_spec` — a certificate is trusted exactly if a path over intermediates of
a single chain leads to the root of that chain.
-/

set_option autoImplicit false

namespace AttestedPayments

namespace Chain

variable {chain : Chain} {seconds : Nat} {c issuer : Certificate} {path : List Certificate}

/-- The intermediates of a list lead from a certificate to the root: each certificate is issued by
the next one and the last one by the root, all issuers may issue, and all certificates are inside
their periods of validity. -/
structure IsPath (chain : Chain) (seconds : Nat) (c : Certificate) (path : List Certificate) :
    Prop where
  intermediate : ∀ x ∈ path, x ∈ chain.intermediates
  issued : List.IsChain (fun a b => a.isIssuedBy b = true) (c :: path ++ [chain.root])
  issuers : ∀ x ∈ path ++ [chain.root], x.mayIssue = true
  valid : ∀ x ∈ c :: path ++ [chain.root], x.isValidAt seconds = true

/-! ## Paths link by link -/

theorem isPath_nil_iff :
    chain.IsPath seconds c [] ↔ c.isValidAt seconds = true ∧ chain.anchors seconds c = true := by
  simp only [anchors, Bool.and_eq_true]
  constructor
  · rintro ⟨_, issued, issuers, valid⟩
    simp only [List.cons_append, List.nil_append, List.isChain_pair] at issued
    exact ⟨valid c (by simp), ⟨issuers _ (by simp), valid _ (by simp)⟩, issued⟩
  · rintro ⟨hc, ⟨hmay, hroot⟩, hissued⟩
    exact ⟨by simp, by simpa using hissued, by simpa using hmay, by simp [hc, hroot]⟩

theorem isPath_cons_iff :
    chain.IsPath seconds c (issuer :: path) ↔
      c.isValidAt seconds = true ∧ issuer ∈ chain.intermediates ∧ issuer.mayIssue = true ∧
        c.isIssuedBy issuer = true ∧ chain.IsPath seconds issuer path := by
  constructor
  · rintro ⟨intermediate, issued, issuers, valid⟩
    simp only [List.cons_append, List.isChain_cons_cons] at issued
    refine ⟨valid c (by simp), intermediate _ (by simp), issuers _ (by simp), issued.1, ?_⟩
    exact ⟨fun x hx => intermediate x (List.mem_cons_of_mem _ hx), issued.2,
      fun x hx => issuers x (List.mem_cons_of_mem _ hx),
      fun x hx => valid x (List.mem_cons_of_mem _ hx)⟩
  · rintro ⟨hc, hmem, hmay, hissued, intermediate, issued, issuers, valid⟩
    refine ⟨?_, ?_, ?_, ?_⟩
    · exact List.forall_mem_cons.mpr ⟨hmem, intermediate⟩
    · simp only [List.cons_append, List.isChain_cons_cons]
      exact ⟨hissued, issued⟩
    · exact List.forall_mem_cons.mpr ⟨hmay, issuers⟩
    · exact List.forall_mem_cons.mpr ⟨hc, valid⟩

/-- What follows a member of a path leads from that member to the root. -/
theorem IsPath.of_append {before after : List Certificate} :
    ∀ {c : Certificate}, chain.IsPath seconds c (before ++ issuer :: after) →
      chain.IsPath seconds issuer after := by
  induction before with
  | nil =>
    intro c h
    exact (isPath_cons_iff.mp h).2.2.2.2
  | cons x before ih =>
    intro c h
    exact ih (isPath_cons_iff.mp h).2.2.2.2

/-- **Loops can be cut out of a path**: there is one that is no longer and has no member twice. -/
theorem IsPath.exists_nodup :
    ∀ {path : List Certificate} {c : Certificate}, chain.IsPath seconds c path →
      ∃ short, chain.IsPath seconds c short ∧ short.Nodup ∧ short.length ≤ path.length
  | [], _, h => ⟨[], h, List.nodup_nil, Nat.le_refl 0⟩
  | issuer :: path, c, h => by
    obtain ⟨hc, hmem, hmay, hissued, hrest⟩ := isPath_cons_iff.mp h
    obtain ⟨short, hshort, hnodup, hlen⟩ := hrest.exists_nodup
    by_cases hin : issuer ∈ short
    · -- the issuer comes again later: go on from there at once
      obtain ⟨before, after, rfl⟩ := List.append_of_mem hin
      refine ⟨issuer :: after, ?_, (List.nodup_append.mp hnodup).2.1, ?_⟩
      · exact isPath_cons_iff.mpr ⟨hc, hmem, hmay, hissued, hshort.of_append⟩
      · simp only [List.length_append, List.length_cons] at hlen ⊢
        omega
    · refine ⟨issuer :: short, ?_, List.nodup_cons.mpr ⟨hin, hnodup⟩, ?_⟩
      · exact isPath_cons_iff.mpr ⟨hc, hmem, hmay, hissued, hshort⟩
      · simp only [List.length_cons]
        omega

end Chain

/-! ## Taking one member out of a list -/

section Picks

variable {α : Type} {a b : α} {l others : List α}

theorem mem_of_mem_picks (h : (a, others) ∈ picks l) : a ∈ l ∧ ∀ b ∈ others, b ∈ l := by
  induction l generalizing others with
  | nil => cases h
  | cons x l ih =>
    rw [picks, List.mem_cons, List.mem_map] at h
    rcases h with h | ⟨⟨y, rest⟩, hy, he⟩
    · cases h
      exact ⟨List.mem_cons_self, fun b hb => List.mem_cons_of_mem _ hb⟩
    · cases he
      obtain ⟨hmem, hrest⟩ := ih hy
      refine ⟨List.mem_cons_of_mem _ hmem, fun b hb => ?_⟩
      rcases List.mem_cons.mp hb with rfl | hb
      · exact List.mem_cons_self
      · exact List.mem_cons_of_mem _ (hrest b hb)

/-- Every member can be taken out, and all that differ from it are left. -/
theorem exists_mem_picks (h : a ∈ l) :
    ∃ others, (a, others) ∈ picks l ∧ ∀ b ∈ l, b ≠ a → b ∈ others := by
  induction l with
  | nil => cases h
  | cons x l ih =>
    rcases List.mem_cons.mp h with rfl | h
    · refine ⟨l, List.mem_cons_self, fun b hb hne => ?_⟩
      exact (List.mem_cons.mp hb).resolve_left hne
    · obtain ⟨others, hmem, hothers⟩ := ih h
      refine ⟨x :: others, ?_, fun b hb hne => ?_⟩
      · exact List.mem_cons_of_mem _ (List.mem_map.mpr ⟨(a, others), hmem, rfl⟩)
      · rcases List.mem_cons.mp hb with rfl | hb
        · exact List.mem_cons_self
        · exact List.mem_cons_of_mem _ (hothers b hb hne)

end Picks

namespace Chain

variable {chain : Chain} {seconds budget : Nat} {c : Certificate}
  {path available : List Certificate}

/-! ## The search -/

/-- What one step of the search does: it ends at the root, or goes on at an issuer. -/
theorem reachesVia_succ_iff :
    chain.reachesVia seconds (budget + 1) available c = true ↔
      c.isValidAt seconds = true ∧
        (chain.anchors seconds c = true ∨
          ∃ issuer others, (issuer, others) ∈ picks available ∧ issuer.mayIssue = true ∧
            c.isIssuedBy issuer = true ∧
              chain.reachesVia seconds budget others issuer = true) := by
  simp only [reachesVia, Bool.and_eq_true, Bool.or_eq_true, List.any_eq_true, Prod.exists,
    and_assoc]

theorem reachesVia_zero_iff :
    chain.reachesVia seconds 0 available c = true ↔
      c.isValidAt seconds = true ∧ chain.anchors seconds c = true := by
  simp only [reachesVia, Bool.and_eq_true]

/-- The search finds only paths. -/
theorem exists_isPath_of_reachesVia :
    ∀ {budget : Nat} {available : List Certificate} {c : Certificate},
      (∀ x ∈ available, x ∈ chain.intermediates) →
      chain.reachesVia seconds budget available c = true →
      ∃ path, path.length ≤ budget ∧ chain.IsPath seconds c path := by
  intro budget
  induction budget with
  | zero =>
    intro available c _ h
    exact ⟨[], Nat.le_refl 0, isPath_nil_iff.mpr (reachesVia_zero_iff.mp h)⟩
  | succ budget ih =>
    intro available c hsub h
    obtain ⟨hc, hroot | ⟨issuer, others, hpick, hmay, hissued, hrest⟩⟩ :=
      reachesVia_succ_iff.mp h
    · exact ⟨[], Nat.zero_le _, isPath_nil_iff.mpr ⟨hc, hroot⟩⟩
    · obtain ⟨hmem, hothers⟩ := mem_of_mem_picks hpick
      obtain ⟨path, hlen, hpath⟩ := ih (fun x hx => hsub x (hothers x hx)) hrest
      refine ⟨issuer :: path, Nat.succ_le_succ hlen, ?_⟩
      exact isPath_cons_iff.mpr ⟨hc, hsub _ hmem, hmay, hissued, hpath⟩

/-- The search finds every path that has no member twice, as long as its members have not been used
and the budget lasts. -/
theorem reachesVia_of_isPath :
    ∀ {path : List Certificate} {budget : Nat} {available : List Certificate} {c : Certificate},
      chain.IsPath seconds c path → path.Nodup → (∀ x ∈ path, x ∈ available) →
      path.length ≤ budget → chain.reachesVia seconds budget available c = true := by
  intro path
  induction path with
  | nil =>
    intro budget available c h _ _ _
    have hroot := isPath_nil_iff.mp h
    cases budget with
    | zero => exact reachesVia_zero_iff.mpr hroot
    | succ budget => exact reachesVia_succ_iff.mpr ⟨hroot.1, Or.inl hroot.2⟩
  | cons issuer path ih =>
    intro budget available c h hnodup hsub hlen
    cases budget with
    | zero => cases hlen
    | succ budget =>
      obtain ⟨hc, _, hmay, hissued, hrest⟩ := isPath_cons_iff.mp h
      obtain ⟨hnot, hnodup⟩ := List.nodup_cons.mp hnodup
      obtain ⟨others, hpick, hothers⟩ := exists_mem_picks (hsub issuer List.mem_cons_self)
      -- the rest of the path does not use the issuer, so it is still there
      have hleft : ∀ x ∈ path, x ∈ others := by
        intro x hx
        refine hothers x (hsub x (List.mem_cons_of_mem _ hx)) ?_
        rintro rfl
        exact hnot hx
      have hfound := ih hrest hnodup hleft (Nat.le_of_succ_le_succ hlen)
      exact reachesVia_succ_iff.mpr
        ⟨hc, Or.inr ⟨issuer, others, hpick, hmay, hissued, hfound⟩⟩

/-- **A path is found exactly if there is one**, however its members repeat. -/
theorem reaches_iff :
    chain.reaches seconds c = true ↔
      ∃ path, path.length ≤ maxPathDepth ∧ chain.IsPath seconds c path := by
  constructor
  · exact exists_isPath_of_reachesVia fun _ hx => hx
  · rintro ⟨path, hlen, hpath⟩
    obtain ⟨short, hshort, hnodup, hle⟩ := hpath.exists_nodup
    exact reachesVia_of_isPath hshort hnodup hshort.intermediate (Nat.le_trans hle hlen)

end Chain

/-! ## Validation -/

theorem rsaKeyOfPem_of_ofPem? {pem : String} {c : Certificate} {key : Rsa.PublicKey}
    (h : Certificate.ofPem? pem = some c) (hkey : c.rsaKey? = some key) :
    rsaKeyOfPem pem = .ok key := by
  refine bind_eq_ok_iff.mpr ⟨c, ?_, ?_⟩
  · simp only [Certificate.ofPem, h]
  · simp only [Certificate.rsaKey, hkey]

/-- A path over intermediates of a single chain leads to the root of that chain. -/
def IsTrusted (chains : List Chain) (seconds : Nat) (c : Certificate) : Prop :=
  ∃ chain ∈ chains, ∃ path, path.length ≤ maxPathDepth ∧ chain.IsPath seconds c path

theorem any_reaches_iff (chains : List Chain) (seconds : Nat) (c : Certificate) :
    (chains.any fun chain => chain.reaches seconds c) = true ↔ IsTrusted chains seconds c := by
  simp only [List.any_eq_true, Chain.reaches_iff, IsTrusted]

/-- What validation comes down to for a certificate that is not signed by its own key. -/
theorem validate_of_ofPem? {chains : List Chain} {clock : Clock} {pem : String}
    {client : Certificate} (h : Certificate.ofPem? pem = some client)
    (hself : client.isSelfSigned = false) :
    validate chains clock pem =
      .ok (chains.any fun chain => chain.reaches clock.seconds client) := by
  simp only [validate, h, hself, Bool.false_eq_true, if_false]

/-- **Validation decides trust.** A text without a certificate and a certificate that is signed by
its own key are refused; any other certificate is trusted exactly if a path leads from it to the
root of one chain. -/
theorem validate_spec (chains : List Chain) (clock : Clock) (pem : String) :
    (Certificate.ofPem? pem = none →
      (validate chains clock pem).mapError PathFault.toFault = .error (.certificate .unreadable)) ∧
    ∀ client, Certificate.ofPem? pem = some client →
      (client.isSelfSigned = true →
        (validate chains clock pem).mapError PathFault.toFault =
          .error (.chain (.clientSelfSigned client.subject))) ∧
      (client.isSelfSigned = false →
        (validate chains clock pem = .ok true ↔ IsTrusted chains clock.seconds client) ∧
        (validate chains clock pem = .ok false ↔ ¬ IsTrusted chains clock.seconds client)) := by
  refine ⟨fun h => ?_, fun client h => ⟨fun hself => ?_, fun hself => ?_⟩⟩
  · simp only [validate, h]
    rfl
  · simp only [validate, h, hself, if_true]
    rfl
  · rw [validate_of_ofPem? h hself, Except.ok.injEq, Except.ok.injEq, ← any_reaches_iff,
      Bool.not_eq_true]
    exact ⟨Iff.rfl, Iff.rfl⟩

/-- The chain of the sample root alone. -/
def sampleChain : Chain := ⟨sampleRoot, [], sampleRoot_isSelfSigned, nofun⟩

theorem isTrusted_sampleClient : IsTrusted [sampleChain] (Clock.seconds ⟨0⟩) sampleClient := by
  refine ⟨sampleChain, List.mem_singleton_self _, [], Nat.zero_le _, ?_⟩
  refine Chain.isPath_nil_iff.mpr ⟨by decide +kernel, ?_⟩
  have hroot : sampleRoot.mayIssue = true ∧ sampleRoot.isValidAt 0 = true := by decide
  show (sampleRoot.mayIssue && sampleRoot.isValidAt 0 && sampleClient.isIssuedBy sampleRoot) = true
  rw [hroot.1, hroot.2, sampleClient_isIssuedBy]
  rfl

theorem validate_sampleClient : validate [sampleChain] ⟨0⟩ sampleClient.toPem = .ok true := by
  rw [validate_of_ofPem? ofPem?_sampleClient sampleClient_isSelfSigned,
    (any_reaches_iff [sampleChain] _ _).mpr isTrusted_sampleClient]

theorem rsaKeyOfPem_sampleClient : rsaKeyOfPem sampleClient.toPem = .ok sampleKey.toPublic :=
  rsaKeyOfPem_of_ofPem? ofPem?_sampleClient sampleClient_rsaKey?

theorem validate_sampleChain :
    Certificate.ofPem? "" = none ∧
      (validate [sampleChain] ⟨0⟩ "").mapError PathFault.toFault =
        .error (.certificate .unreadable) ∧
      (validate [sampleChain] ⟨0⟩ sampleRoot.toPem).mapError PathFault.toFault =
        .error (.chain (.clientSelfSigned sampleRoot.subject)) ∧
      validate [sampleChain] ⟨0⟩ sampleClient.toPem = .ok true ∧
      validate [] ⟨0⟩ sampleClient.toPem = .ok false := by
  have hnone : Certificate.ofPem? "" = none := by decide +kernel
  have hroot := (validate_spec [sampleChain] ⟨0⟩ sampleRoot.toPem).2 _ ofPem?_sampleRoot
  have hclient := (validate_spec [sampleChain] ⟨0⟩ sampleClient.toPem).2 _ ofPem?_sampleClient
  have hnobody := (validate_spec [] ⟨0⟩ sampleClient.toPem).2 _ ofPem?_sampleClient
  refine ⟨hnone, (validate_spec _ _ _).1 hnone, hroot.1 sampleRoot_isSelfSigned,
    (hclient.2 sampleClient_isSelfSigned).1.mpr isTrusted_sampleClient,
    (hnobody.2 sampleClient_isSelfSigned).2.mpr ?_⟩
  rintro ⟨_, hmem, _⟩
  cases hmem

end AttestedPayments
