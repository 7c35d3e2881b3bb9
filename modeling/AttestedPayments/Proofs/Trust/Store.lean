import AttestedPayments.Proofs.Text.Characters
import AttestedPayments.Proofs.Trust.Order
import AttestedPayments.Trust.Store
import Mathlib.Data.List.Perm.Basic

/-!
# What is loaded from a directory of trusted chains

* `DirectoryEntry.IsVisibleFile` — the entries that count: files whose name is a text that does not
  start with a dot.
* `chainFiles_pairwise`, `mem_chainFiles` — these entries, each once, in the order of their names;
  `chainFiles_eq_of_mem_iff` — so it does not matter in which order a directory lists them, and what
  else it lists.
* `Chain.IsOf` — a chain consists of given certificates: the root is one of them, the intermediates are
  all others in their order.
* `DirectoryEntry.chain_eq_ok_iff`, `DirectoryEntry.chain_eq_error_iff` — the chain of a file, and what
  is wrong with a file that holds none.

Principal result: `trustStoreChains_exact`.
-/

set_option autoImplicit false

namespace AttestedPayments

/-! ## The order of names -/

theorem Certificate.octetsLe_iff_le (a b : Bytes) : octetsLe a b = true ↔ a ≤ b := by
  induction a generalizing b with
  | nil => exact ⟨fun _ => List.nil_le b, fun _ => rfl⟩
  | cons x a ih =>
    cases b with
    | nil => exact ⟨nofun, fun h => absurd (List.le_nil.mp h) (List.cons_ne_nil x a)⟩
    | cons y b =>
      rw [octetsLe, List.cons_le_cons_iff, ← ih]
      simp only [Bool.or_eq_true, Bool.and_eq_true, decide_eq_true_eq, beq_iff_eq]

/-- Entries in the order of their names are the same if they have the same members. -/
theorem entries_eq_of_mem_iff {as bs : List DirectoryEntry}
    (ha : as.Pairwise fun a b => a.name < b.name) (hb : bs.Pairwise fun a b => a.name < b.name)
    (h : ∀ e, e ∈ as ↔ e ∈ bs) : as = bs := by
  have hirrefl : ∀ e : DirectoryEntry, ¬ e.name < e.name := fun e => List.lt_irrefl e.name
  have hne : ∀ {a b : DirectoryEntry}, a.name < b.name → a ≠ b := by
    rintro a _ hab rfl
    exact hirrefl a hab
  have hperm : as.Perm bs :=
    (List.perm_ext_iff_of_nodup (ha.imp hne) (hb.imp hne)).mpr h
  exact hperm.eq_of_pairwise (fun a b _ _ hab hba => absurd (List.lt_trans hab hba) (hirrefl a)) ha hb

namespace DirectoryEntry

variable {entry : DirectoryEntry} {name : String}

/-! ## Visible names -/

/-- A character whose first octet is that of a dot is a dot. -/
theorem head?_utf8EncodeChar (c : Char) : (String.utf8EncodeChar c).head? = some dot ↔ c = '.' := by
  constructor
  · intro h
    by_cases hc : c.toNat < 128
    · have key : ∀ n : Fin 128, (String.utf8EncodeChar (Char.ofNat n)).head? = some dot →
          Char.ofNat n = '.' := by decide
      have := key ⟨c.toNat, hc⟩
      rw [Char.ofNat_toNat] at this
      exact this h
    · have hle := le_of_mem_utf8EncodeChar (Nat.le_of_not_lt hc) (List.mem_of_head? h)
      exact absurd hle (by decide)
  · rintro rfl
    rfl

/-- A text starts with a dot exactly if its octets do. -/
theorem head?_encode (name : String) :
    (Utf8.encode name).head? = some dot ↔ name.toList.head? = some '.' := by
  rw [Utf8.encode_eq_flatMap]
  cases name.toList with
  | nil => exact ⟨nofun, nofun⟩
  | cons c rest =>
    obtain ⟨b, more, hc⟩ := List.exists_cons_of_ne_nil (String.utf8EncodeChar_ne_nil (c := c))
    have hdot := head?_utf8EncodeChar c
    rw [hc, List.head?_cons] at hdot
    rw [List.flatMap_cons, hc, List.cons_append, List.head?_cons, List.head?_cons, hdot,
      Option.some.injEq]

/-- The visible name of an entry is the text that its name writes, unless that starts with a dot. -/
theorem visibleName?_eq_some_iff :
    entry.visibleName? = some name ↔
      entry.name = Utf8.encode name ∧ name.toList.head? ≠ some '.' := by
  unfold visibleName?
  constructor
  · intro h
    split at h
    · cases h
    · rename_i hdot
      cases hread : Utf8.decode entry.name with
      | error fault =>
        rw [hread] at h
        cases h
      | ok text =>
        rw [hread] at h
        cases h
        have hname := Utf8.encode_of_decode hread
        rw [← hname, head?_encode] at hdot
        exact ⟨hname.symm, hdot⟩
  · rintro ⟨hname, hdot⟩
    have hhead : entry.name.head? ≠ some dot := by
      rw [hname]
      exact mt (head?_encode name).mp hdot
    rw [if_neg hhead, hname, Utf8.decode_encode]
    rfl

/-- A regular file whose name is a text that does not start with a dot. -/
def IsVisibleFile (entry : DirectoryEntry) : Prop :=
  (∃ read, entry.file = some read) ∧
    ∃ name : String, entry.name = Utf8.encode name ∧ name.toList.head? ≠ some '.'

theorem isChainFile_iff : entry.isChainFile = true ↔ entry.IsVisibleFile := by
  simp only [isChainFile, IsVisibleFile, Bool.and_eq_true, Option.isSome_iff_exists,
    visibleName?_eq_some_iff]

end DirectoryEntry

/-! ## The files that count -/

section

variable {entries others : List DirectoryEntry} {entry : DirectoryEntry}

theorem mem_chainFiles : entry ∈ chainFiles entries ↔ entry ∈ entries ∧ entry.IsVisibleFile := by
  rw [chainFiles, List.mem_mergeSort, List.mem_filter, DirectoryEntry.isChainFile_iff]

/-- The files that count are in the order of their names. -/
theorem chainFiles_pairwise (h : (entries.map DirectoryEntry.name).Nodup) :
    (chainFiles entries).Pairwise fun a b => a.name < b.name := by
  have hsorted : (chainFiles entries).Pairwise fun a b => a.name ≤ b.name := by
    apply List.Pairwise.imp fun {_ _} => (Certificate.octetsLe_iff_le _ _).mp
    apply List.pairwise_mergeSort
    · intro a b c
      simp only [Certificate.octetsLe_iff_le]
      exact List.le_trans
    · intro a b
      simp only [Bool.or_eq_true, Certificate.octetsLe_iff_le]
      exact List.le_total a.name b.name
  have hdistinct : (chainFiles entries).Pairwise fun a b => a.name ≠ b.name := by
    refine ((List.mergeSort_perm _ _).pairwise_iff fun h => h.symm).mpr ?_
    exact (List.pairwise_map.mp h).filter _
  exact (hsorted.and hdistinct).imp fun ⟨hle, hne⟩ => Std.lt_of_le_of_ne hle hne

/-- **Which files count depends neither on the order of a listing nor on what else is listed.** -/
theorem chainFiles_eq_of_mem_iff (h : (entries.map DirectoryEntry.name).Nodup)
    (hothers : (others.map DirectoryEntry.name).Nodup)
    (hsame : ∀ e : DirectoryEntry, e.IsVisibleFile → (e ∈ others ↔ e ∈ entries)) :
    chainFiles others = chainFiles entries := by
  refine entries_eq_of_mem_iff (chainFiles_pairwise hothers) (chainFiles_pairwise h) fun e => ?_
  rw [mem_chainFiles, mem_chainFiles]
  exact and_congr_left (hsame e)

end

/-! ## The chain of a file -/

namespace Chain

variable {chain : Chain} {source : String} {list : List Certificate}

/-- The root is one of the certificates, and the intermediates are all others in their order. -/
def IsOf (chain : Chain) (list : List Certificate) : Prop :=
  ∃ before after, list = before ++ chain.root :: after ∧ chain.intermediates = before ++ after

/-- One certificate that is signed by its own key among others that are not. -/
theorem filter_split {root : Certificate} {before after : List Certificate}
    (hroot : root.isSelfSigned = true) (hothers : ∀ c ∈ before ++ after, c.isSelfSigned = false) :
    (before ++ root :: after).filter Certificate.isSelfSigned = [root] ∧
      (before ++ root :: after).filter (not ∘ Certificate.isSelfSigned) = before ++ after := by
  rw [List.forall_mem_append] at hothers
  have hnone : ∀ l : List Certificate, (∀ c ∈ l, c.isSelfSigned = false) →
      l.filter Certificate.isSelfSigned = [] ∧ l.filter (not ∘ Certificate.isSelfSigned) = l := by
    intro l hl
    exact ⟨List.filter_eq_nil_iff.mpr fun c hc => by simp [hl c hc],
      List.filter_eq_self.mpr fun c hc => by simp [hl c hc]⟩
  rw [List.filter_append, List.filter_append, List.filter_cons_of_pos hroot,
    List.filter_cons_of_neg (by simp [hroot]), (hnone _ hothers.1).1, (hnone _ hothers.2).1,
    (hnone _ hothers.1).2, (hnone _ hothers.2).2]
  exact ⟨rfl, rfl⟩

/-- **Certificates make the chain that consists of them**: none is lost, added or taken for another. -/
theorem ofCertificates_eq_ok_iff : ofCertificates source list = .ok chain ↔ chain.IsOf list := by
  constructor
  · intro h
    by_cases hone : list.countP Certificate.isSelfSigned = 1
    · rw [List.countP_eq_length_filter, List.length_eq_one_iff] at hone
      obtain ⟨root, hroot⟩ := hone
      obtain ⟨found, hfound, rfl, hothers⟩ := ofCertificates_of_one source hroot
      obtain rfl := Except.ok.inj (hfound.symm.trans h)
      obtain ⟨before, after, rfl, hbefore, _, hafter⟩ := List.filter_eq_cons_iff.mp hroot
      have hissued : ∀ c ∈ before ++ after, c.isSelfSigned = false := by
        rw [List.filter_eq_nil_iff] at hafter
        intro c hc
        exact Bool.eq_false_iff.mpr ((List.mem_append.mp hc).elim (hbefore c) (hafter c))
      exact ⟨before, after, rfl, hothers.trans (filter_split found.rootSelfSigned hissued).2⟩
    · rw [ofCertificates_of_ne hone] at h
      cases h
  · rintro ⟨before, after, rfl, hothers⟩
    obtain ⟨root, intermediates, hself, hissued⟩ := chain
    obtain rfl : intermediates = before ++ after := hothers
    obtain ⟨hroot, hrest⟩ := filter_split hself hissued
    obtain ⟨⟨_, _, _, _⟩, hfound, rfl, hfoundOthers⟩ := ofCertificates_of_one source hroot
    rw [hrest] at hfoundOthers
    obtain rfl := hfoundOthers
    exact hfound

/-- There is such a chain if one of the certificates is signed by its own key. -/
theorem exists_isOf_iff : (∃ chain : Chain, chain.IsOf list) ↔
    list.countP Certificate.isSelfSigned = 1 := by
  constructor
  · rintro ⟨chain, before, after, rfl, hothers⟩
    have hissued := chain.othersIssued
    rw [hothers] at hissued
    rw [List.countP_eq_length_filter, (filter_split chain.rootSelfSigned hissued).1]
    rfl
  · intro hone
    rw [List.countP_eq_length_filter, List.length_eq_one_iff] at hone
    obtain ⟨root, hroot⟩ := hone
    obtain ⟨chain, hchain, _⟩ := ofCertificates_of_one "" hroot
    exact ⟨chain, ofCertificates_eq_ok_iff.mp hchain⟩

theorem ofCertificates_eq_error_iff {fault : ChainFault} :
    ofCertificates source list = .error fault ↔
      list.countP Certificate.isSelfSigned ≠ 1 ∧ rootsFault source list = fault := by
  by_cases hone : list.countP Certificate.isSelfSigned = 1
  · obtain ⟨chain, hchain⟩ := exists_isOf_iff.mpr hone
    rw [ofCertificates_eq_ok_iff.mpr hchain]
    exact ⟨nofun, fun h => absurd hone h.1⟩
  · rw [ofCertificates_of_ne hone, Except.error.injEq, and_iff_right hone]

theorem rootsFault_of_none (hne : list ≠ [])
    (hnone : list.countP Certificate.isSelfSigned = 0) :
    rootsFault source list = .noRoot source := by
  simp only [rootsFault, if_neg hne, hnone]

theorem rootsFault_of_many {count : Nat} (hcount : list.countP Certificate.isSelfSigned = count)
    (hmany : 2 ≤ count) : rootsFault source list = .manyRoots source count := by
  have hne : list ≠ [] := by
    rintro rfl
    rw [List.countP_nil] at hcount
    omega
  rw [rootsFault, if_neg hne, hcount]
  split
  · omega
  · rfl

end Chain

namespace DirectoryEntry

variable {entry : DirectoryEntry} {chain : Chain} {fault : ChainFault} {directory : String}

/-- The file holds certificates that make up the chain. -/
def Holds (entry : DirectoryEntry) (chain : Chain) : Prop :=
  ∃ octets list, entry.file = some (.ok octets) ∧ Certificate.ofBundle? octets = some list ∧
    chain.IsOf list

/-- The file can be read, and it holds certificates of which one is signed by its own key. -/
def HoldsOneRoot (entry : DirectoryEntry) : Prop :=
  ∃ octets list, entry.file = some (.ok octets) ∧ Certificate.ofBundle? octets = some list ∧
    list.countP Certificate.isSelfSigned = 1

theorem holdsOneRoot_iff : entry.HoldsOneRoot ↔ ∃ chain, entry.Holds chain := by
  simp only [HoldsOneRoot, ← Chain.exists_isOf_iff]
  constructor
  · rintro ⟨octets, list, hfile, hlist, chain, hchain⟩
    exact ⟨chain, octets, list, hfile, hlist, hchain⟩
  · rintro ⟨chain, octets, list, hfile, hlist, hchain⟩
    exact ⟨octets, list, hfile, hlist, chain, hchain⟩

/-- What is wrong with a file at a path that does not hold one root: it cannot be read, it is no list of
certificates, there are none in it, or none or several of them are signed by their own key. -/
inductive Offends (path : String) (entry : DirectoryEntry) : ChainFault → Prop where
  | unreadable {fault : FileFault} :
      entry.file = some (.error fault) → Offends path entry (.unreadableFile path fault)
  | noBundle {octets : Bytes} :
      entry.file = some (.ok octets) → Certificate.ofBundle? octets = none →
        Offends path entry (.unreadableBundle path)
  | empty {octets : Bytes} :
      entry.file = some (.ok octets) → Certificate.ofBundle? octets = some [] →
        Offends path entry (.emptyBundle path)
  | noRoot {octets : Bytes} {list : List Certificate} :
      entry.file = some (.ok octets) → Certificate.ofBundle? octets = some list → list ≠ [] →
        list.countP Certificate.isSelfSigned = 0 → Offends path entry (.noRoot path)
  | manyRoots {octets : Bytes} {list : List Certificate} {count : Nat} :
      entry.file = some (.ok octets) → Certificate.ofBundle? octets = some list →
        list.countP Certificate.isSelfSigned = count → 2 ≤ count →
        Offends path entry (.manyRoots path count)

/-- Certificates of which not exactly one is signed by its own key are wrong in one of three ways. -/
theorem offends_rootsFault {path : String} {octets : Bytes} {list : List Certificate}
    (hfile : entry.file = some (.ok octets)) (hlist : Certificate.ofBundle? octets = some list)
    (hone : list.countP Certificate.isSelfSigned ≠ 1) :
    entry.Offends path (Chain.rootsFault path list) := by
  unfold Chain.rootsFault
  split
  · rename_i hnil
    exact .empty hfile (hnil ▸ hlist)
  · rename_i hne
    split
    · rename_i hnone
      exact .noRoot hfile hlist hne hnone
    · rename_i hnone
      have hpos := Nat.pos_of_ne_zero hnone
      exact .manyRoots hfile hlist rfl (Nat.lt_of_le_of_ne hpos hone.symm)

/-- **A file has a chain exactly if it holds the certificates of that chain.** -/
theorem chain_eq_ok_iff : entry.chain directory = .ok chain ↔ entry.Holds chain := by
  unfold DirectoryEntry.chain
  dsimp only
  constructor
  · intro h
    split at h
    · cases h
    · cases h
    · rename_i octets hfile
      unfold Chain.ofBundle at h
      split at h
      · cases h
      · rename_i list hlist
        exact ⟨octets, list, hfile, hlist, Chain.ofCertificates_eq_ok_iff.mp h⟩
  · rintro ⟨octets, list, hfile, hlist, hchain⟩
    rw [hfile]
    show Chain.ofBundle _ octets = _
    rw [Chain.ofBundle, hlist]
    exact Chain.ofCertificates_eq_ok_iff.mpr hchain

section

variable {name : String} (hname : entry.visibleName? = some name)

include hname

/-- A file that cannot be read has no chain. -/
theorem chain_of_unreadable {cause : FileFault} (hfile : entry.file = some (.error cause)) :
    entry.chain directory = .error (.unreadableFile (joinPath directory name) cause) := by
  rw [DirectoryEntry.chain, hfile, hname]
  rfl

/-- A file that can be read has the chain of its octets. -/
theorem chain_of_readable {octets : Bytes} (hfile : entry.file = some (.ok octets)) :
    entry.chain directory = Chain.ofBundle (joinPath directory name) octets := by
  rw [DirectoryEntry.chain, hfile, hname]
  rfl

/-- **The fault of a file tells what is wrong with it.** -/
theorem chain_eq_error_iff {read : Except FileFault Bytes} (hfile : entry.file = some read) :
    entry.chain directory = .error fault ↔ entry.Offends (joinPath directory name) fault := by
  constructor
  · intro h
    cases read with
    | error cause =>
      rw [chain_of_unreadable hname hfile] at h
      cases h
      exact .unreadable hfile
    | ok octets =>
      rw [chain_of_readable hname hfile, Chain.ofBundle] at h
      split at h
      · rename_i hlist
        cases h
        exact .noBundle hfile hlist
      · rename_i list hlist
        obtain ⟨hone, rfl⟩ := Chain.ofCertificates_eq_error_iff.mp h
        exact offends_rootsFault hfile hlist hone
  · intro h
    cases h with
    | unreadable hcause => rw [chain_of_unreadable hname hcause]
    | noBundle hoctets hlist => rw [chain_of_readable hname hoctets, Chain.ofBundle, hlist]
    | empty hoctets hlist =>
      rw [chain_of_readable hname hoctets, Chain.ofBundle, hlist]
      rfl
    | noRoot hoctets hlist hne hnone =>
      rw [chain_of_readable hname hoctets, Chain.ofBundle, hlist]
      exact Chain.ofCertificates_eq_error_iff.mpr ⟨by omega, Chain.rootsFault_of_none hne hnone⟩
    | manyRoots hoctets hlist hcount hmany =>
      rw [chain_of_readable hname hoctets, Chain.ofBundle, hlist]
      exact Chain.ofCertificates_eq_error_iff.mpr
        ⟨by omega, Chain.rootsFault_of_many hcount hmany⟩

end

end DirectoryEntry

/-! ## All files of a directory -/

section

variable {directory : String} {entries : List DirectoryEntry}

/-- A directory in which some file counts. -/
theorem trustStoreChains_of_ne (h : chainFiles entries ≠ []) :
    trustStoreChains directory (.ok entries) =
      (chainFiles entries).mapM (DirectoryEntry.chain directory) := by
  have hne : (chainFiles entries).isEmpty = false := List.isEmpty_eq_false_iff.mpr h
  simp only [trustStoreChains, hne, Bool.false_eq_true, if_false]

/-- A directory in which no file counts. -/
theorem trustStoreChains_of_eq_nil (h : chainFiles entries = []) :
    trustStoreChains directory (.ok entries) = .error (.emptyStore directory) := by
  simp only [trustStoreChains, h, List.isEmpty_nil, if_true]

theorem exists_trustStoreChains_iff :
    (∃ chains, trustStoreChains directory (.ok entries) = .ok chains) ↔
      chainFiles entries ≠ [] ∧ ∀ e ∈ chainFiles entries, e.HoldsOneRoot := by
  by_cases hnil : chainFiles entries = []
  · rw [trustStoreChains_of_eq_nil hnil]
    exact ⟨nofun, fun h => absurd hnil h.1⟩
  · rw [trustStoreChains_of_ne hnil, exists_mapM_eq_ok_iff, and_iff_right hnil]
    simp only [DirectoryEntry.chain_eq_ok_iff, DirectoryEntry.holdsOneRoot_iff]

/-- There is one chain for each file, in the order of the names. -/
theorem holds_of_trustStoreChains {chains : List Chain}
    (h : trustStoreChains directory (.ok entries) = .ok chains) :
    List.Forall₂ DirectoryEntry.Holds (chainFiles entries) chains := by
  have hne := (exists_trustStoreChains_iff.mp ⟨chains, h⟩).1
  rw [trustStoreChains_of_ne hne, mapM_eq_ok_iff] at h
  simpa only [DirectoryEntry.chain_eq_ok_iff] using h

/-- Otherwise no file counts, or the first one that does not hold one root gives the fault. -/
theorem trustStoreChains_eq_error_iff {fault : ChainFault} :
    trustStoreChains directory (.ok entries) = .error fault ↔
      chainFiles entries = [] ∧ fault = .emptyStore directory ∨
      ∃ before e after name, chainFiles entries = before ++ e :: after ∧
        (∀ b ∈ before, b.HoldsOneRoot) ∧ e.name = Utf8.encode name ∧
        e.Offends (joinPath directory name) fault := by
  by_cases hnil : chainFiles entries = []
  · rw [trustStoreChains_of_eq_nil hnil, Except.error.injEq, eq_comm]
    simp [hnil]
  · rw [trustStoreChains_of_ne hnil, mapM_eq_error_iff]
    simp only [DirectoryEntry.chain_eq_ok_iff, ← DirectoryEntry.holdsOneRoot_iff, hnil, false_and,
      false_or]
    constructor
    · rintro ⟨before, e, after, hfiles, hbefore, hfault⟩
      have hmem : e ∈ chainFiles entries := hfiles ▸ List.mem_append_right before List.mem_cons_self
      obtain ⟨⟨read, hfile⟩, name, hname⟩ := (mem_chainFiles.mp hmem).2
      have hvisible := DirectoryEntry.visibleName?_eq_some_iff.mpr hname
      exact ⟨before, e, after, name, hfiles, hbefore, hname.1,
        (DirectoryEntry.chain_eq_error_iff hvisible hfile).mp hfault⟩
    · rintro ⟨before, e, after, name, hfiles, hbefore, hname, hfault⟩
      have hmem : e ∈ chainFiles entries := hfiles ▸ List.mem_append_right before List.mem_cons_self
      obtain ⟨⟨read, hfile⟩, name', hname', hdot⟩ := (mem_chainFiles.mp hmem).2
      obtain rfl := Utf8.encode_injective (hname'.symm.trans hname)
      have hvisible := DirectoryEntry.visibleName?_eq_some_iff.mpr ⟨hname', hdot⟩
      exact ⟨before, e, after, hfiles, hbefore,
        (DirectoryEntry.chain_eq_error_iff hvisible hfile).mpr hfault⟩

end

/-- **What is loaded from a directory is exactly what its files hold.** The files that count are the
regular ones whose name is a text that does not start with a dot, in the order of their names. There are
chains if there is such a file and each of them holds one certificate that is signed by its own key: one
chain for each file, of all its certificates. Otherwise the fault is that no file counts, or that of
the first file that does not hold such a certificate; parts that were told apart are never refused
again. The order of a listing, hidden files, and whatever is no file make no difference. -/
theorem trustStoreChains_exact (directory : String) (entries : List DirectoryEntry)
    (hnames : (entries.map DirectoryEntry.name).Nodup) :
    ∃ files : List DirectoryEntry,
      (files.Pairwise fun a b => a.name < b.name) ∧
      (∀ e, e ∈ files ↔ e ∈ entries ∧ e.IsVisibleFile) ∧
      ((∃ chains, trustStoreChains directory (.ok entries) = .ok chains) ↔
        files ≠ [] ∧ ∀ e ∈ files, e.HoldsOneRoot) ∧
      (∀ chains, trustStoreChains directory (.ok entries) = .ok chains →
        List.Forall₂ DirectoryEntry.Holds files chains) ∧
      (∀ fault, trustStoreChains directory (.ok entries) = .error fault ↔
        files = [] ∧ fault = .emptyStore directory ∨
        ∃ before e after name, files = before ++ e :: after ∧ (∀ b ∈ before, b.HoldsOneRoot) ∧
          e.name = Utf8.encode name ∧ e.Offends (joinPath directory name) fault) ∧
      (∀ subject,
        trustStoreChains directory (.ok entries) ≠ .error (.rootNotSelfSigned subject) ∧
        trustStoreChains directory (.ok entries) ≠ .error (.intermediateSelfSigned subject)) ∧
      ∀ others : List DirectoryEntry, (others.map DirectoryEntry.name).Nodup →
        (∀ e : DirectoryEntry, e.IsVisibleFile → (e ∈ others ↔ e ∈ entries)) →
          trustStoreChains directory (.ok others) = trustStoreChains directory (.ok entries) := by
  refine ⟨chainFiles entries, chainFiles_pairwise hnames, fun _ => mem_chainFiles,
    exists_trustStoreChains_iff, fun _ => holds_of_trustStoreChains,
    fun _ => trustStoreChains_eq_error_iff, fun subject => ⟨fun h => ?_, fun h => ?_⟩,
    fun others hothers hsame => ?_⟩
  · obtain ⟨_, h⟩ | ⟨_, _, _, _, _, _, _, h⟩ := trustStoreChains_eq_error_iff.mp h <;> cases h
  · obtain ⟨_, h⟩ | ⟨_, _, _, _, _, _, _, h⟩ := trustStoreChains_eq_error_iff.mp h <;> cases h
  · simp only [trustStoreChains, chainFiles_eq_of_mem_iff hnames hothers hsame]

/-! ## A directory with two files -/

/-- A file with a client's certificate and the root that issued it. -/
def pairEntry : DirectoryEntry :=
  ⟨Utf8.encode "b", some (.ok (samplePair sampleClient sampleRoot))⟩

/-- A file with a client's certificate alone. -/
def clientEntry : DirectoryEntry := ⟨Utf8.encode "c", some (.ok (Utf8.encode sampleClient.toPem))⟩

/-- A hidden file that cannot be read. -/
def hiddenEntry : DirectoryEntry := ⟨Utf8.encode ".a", some (.error .notText)⟩

/-- A directory inside the directory. -/
def directoryEntry : DirectoryEntry := ⟨Utf8.encode "a", none⟩

theorem isVisibleFile_pairEntry : pairEntry.IsVisibleFile :=
  ⟨⟨_, rfl⟩, "b", rfl, by decide⟩

theorem isVisibleFile_clientEntry : clientEntry.IsVisibleFile :=
  ⟨⟨_, rfl⟩, "c", rfl, by decide⟩

theorem not_isVisibleFile_hiddenEntry : ¬ hiddenEntry.IsVisibleFile := by
  rw [← DirectoryEntry.isChainFile_iff]
  decide

theorem not_isVisibleFile_directoryEntry : ¬ directoryEntry.IsVisibleFile := by
  rw [← DirectoryEntry.isChainFile_iff]
  decide

/-- The chain of both certificates is the only one that the file holds. -/
theorem holds_pairEntry {chain : Chain} (h : pairEntry.Holds chain) :
    chain.root = sampleRoot ∧ chain.intermediates = [sampleClient] := by
  obtain ⟨octets, list, hfile, hlist, hchain⟩ := h
  cases hfile
  obtain rfl := Option.some.inj (ofBundle?_rootLast.symm.trans hlist)
  have hfound : Chain.ofCertificates "" [sampleClient, sampleRoot] = .ok chain :=
    Chain.ofCertificates_eq_ok_iff.mpr hchain
  have hone : [sampleClient, sampleRoot].filter Certificate.isSelfSigned = [sampleRoot] := by
    simp [sampleRoot_isSelfSigned, sampleClient_isSelfSigned]
  obtain ⟨found, hother, hroot, hothers⟩ := Chain.ofCertificates_of_one "" hone
  obtain rfl := Except.ok.inj (hother.symm.trans hfound)
  refine ⟨hroot, hothers.trans ?_⟩
  simp [sampleRoot_isSelfSigned, sampleClient_isSelfSigned]

theorem holdsOneRoot_pairEntry : pairEntry.HoldsOneRoot :=
  ⟨_, _, rfl, ofBundle?_rootLast, by simp [sampleRoot_isSelfSigned, sampleClient_isSelfSigned]⟩

theorem offends_clientEntry (path : String) : clientEntry.Offends path (.noRoot path) := by
  have hlist : Certificate.ofBundle? (Utf8.encode sampleClient.toPem) = some [sampleClient] := by
    rw [Certificate.encode_toPem]
    decide +kernel
  exact .noRoot rfl hlist (List.cons_ne_nil _ _) (by simp [sampleClient_isSelfSigned])

/-- Both certificates of the file are loaded, whatever else is hidden in the directory; once there is a
file with the client alone, which comes later, that file is refused. -/
theorem sampleDirectory_loads :
    (∃ chain, trustStoreChains "s" (.ok [pairEntry, hiddenEntry, directoryEntry]) = .ok [chain] ∧
      chain.root = sampleRoot ∧ chain.intermediates = [sampleClient]) ∧
    trustStoreChains "s" (.ok [directoryEntry, pairEntry]) =
      trustStoreChains "s" (.ok [pairEntry, hiddenEntry, directoryEntry]) ∧
    trustStoreChains "s" (.ok [clientEntry, hiddenEntry, pairEntry]) =
      .error (.noRoot (joinPath "s" "c")) := by
  obtain ⟨files, hsorted, hmem, hok, hholds, -, -, hothers⟩ :=
    trustStoreChains_exact "s" [pairEntry, hiddenEntry, directoryEntry] (by decide)
  obtain ⟨files', hsorted', hmem', -, -, hfault, -, -⟩ :=
    trustStoreChains_exact "s" [clientEntry, hiddenEntry, pairEntry] (by decide)
  have hhidden := not_isVisibleFile_hiddenEntry
  have hdirectory := not_isVisibleFile_directoryEntry
  obtain rfl : files = [pairEntry] := by
    refine entries_eq_of_mem_iff hsorted (List.pairwise_singleton _ _) fun e => ?_
    simp only [hmem, List.mem_cons, List.not_mem_nil, or_false]
    constructor
    · rintro ⟨rfl | rfl | rfl, he⟩
      · rfl
      · exact absurd he hhidden
      · exact absurd he hdirectory
    · rintro rfl
      exact ⟨.inl rfl, isVisibleFile_pairEntry⟩
  obtain rfl : files' = [pairEntry, clientEntry] := by
    refine entries_eq_of_mem_iff hsorted' (List.pairwise_pair.mpr (by decide)) fun e => ?_
    simp only [hmem', List.mem_cons, List.not_mem_nil, or_false]
    constructor
    · rintro ⟨rfl | rfl | rfl, he⟩
      · exact .inr rfl
      · exact absurd he hhidden
      · exact .inl rfl
    · rintro (rfl | rfl)
      · exact ⟨.inr (.inr rfl), isVisibleFile_pairEntry⟩
      · exact ⟨.inl rfl, isVisibleFile_clientEntry⟩
  refine ⟨?_, hothers _ (by decide) fun e he => ?_, (hfault _).mpr (.inr ?_)⟩
  · obtain ⟨chains, hchains⟩ := hok.mpr ⟨List.cons_ne_nil _ _, by simp [holdsOneRoot_pairEntry]⟩
    obtain _ | ⟨hchain, ⟨⟩⟩ := hholds chains hchains
    exact ⟨_, hchains, holds_pairEntry hchain⟩
  · have hne : e ≠ hiddenEntry := by
      rintro rfl
      exact hhidden he
    simp only [List.mem_cons, List.not_mem_nil, or_false, hne, false_or]
    exact or_comm
  · exact ⟨[pairEntry], clientEntry, [], "c", rfl, by simp [holdsOneRoot_pairEntry], rfl,
      offends_clientEntry _⟩

end AttestedPayments
