import AttestedPayments.CommandLine.Run
import AttestedPayments.Proofs.Exchange.Agreement
import AttestedPayments.Proofs.Exchange.Primaries
import AttestedPayments.Proofs.Trust.Store

/-!
# Checking a message from the command line

* `FileTree.Gives` — which recipient the files with its keys give.
* `ValidationRun` — a command line that asks for the check of a message, and files to do it with: the
  message and the keys can be read, and the directory of trusted chains can be loaded.
* `ValidationRun.result_eq` — such a run shows the result of the check of a message of any kind, and
  changes no file.

Principal result: `entryPoints_agree` — a message gets the same answer in every way of reading and
checking it: as one of any kind, as one of each single kind, and from the command line.
-/

set_option autoImplicit false

namespace AttestedPayments.CommandLine

/-- A file holds a text. -/
def FileTree.HoldsText (tree : FileTree) (path text : String) : Prop :=
  ∃ octets, tree.read path = .ok octets ∧ Utf8.decode octets = .ok text

/-- The recipient whose keys are in files; there is none without the file of a public key. -/
inductive FileTree.Gives (tree : FileTree) : KeyFiles → Option Recipient → Prop where
  | nobody (privatePath : Option String) : tree.Gives ⟨privatePath, none⟩ none
  | publicKey {publicPath publicPem : String} : tree.HoldsText publicPath publicPem →
      tree.Gives ⟨none, some publicPath⟩ (some (.ofKeys ⟨none, publicPem⟩))
  | bothKeys {privatePath publicPath privatePem publicPem : String} :
      tree.HoldsText publicPath publicPem → tree.HoldsText privatePath privatePem →
      tree.Gives ⟨some privatePath, some publicPath⟩
        (some (.ofKeys ⟨some privatePem, publicPem⟩))

/-- A command line that asks for the check of a message, with files that can be read. -/
structure ValidationRun (octets : Bytes) (recipient : Option Recipient) (chains : List Chain) where
  tree : FileTree
  env : Environment
  words : List String
  file : String
  store : String
  keys : KeyFiles
  request_eq : Request.ofWords env words = .run (.validate file store keys)
  message_eq : tree.read file = .ok octets
  recipient_given : tree.Gives keys recipient
  chains_eq : trustStoreChains store (tree.list store) = .ok chains

/-- What is shown for a valid message of a kind. -/
def validReport (type : MessageType) : String :=
  document (.object [("valid", .bool true), ("message_type", .text type.text)])

/-! ## Reading files -/

section

variable {tree : FileTree}

theorem withMessage_eq {path : String} {octets : Bytes} (h : tree.read path = .ok octets)
    (next : Bytes → StateM FileTree Outcome) :
    withMessage FileTree.files path next tree = next octets tree := by
  have hread : FileTree.files.read path tree = (.ok octets, tree) := congrArg (·, tree) h
  simp only [withMessage, bind, StateT.bind, hread]

theorem withKeyText_eq {path text : String} (h : tree.HoldsText path text)
    (next : String → StateM FileTree Outcome) :
    withKeyText FileTree.files path next tree = next text tree := by
  obtain ⟨octets, hoctets, hdecode⟩ := h
  have hread : FileTree.files.read path tree = (.ok octets, tree) := congrArg (·, tree) hoctets
  simp only [withKeyText, bind, StateT.bind, hread, hdecode]

theorem withRecipient_eq {keys : KeyFiles} {recipient : Option Recipient}
    (h : tree.Gives keys recipient) (next : Option Recipient → StateM FileTree Outcome) :
    withRecipient FileTree.files keys next tree = next recipient tree := by
  cases h with
  | nobody privatePath => rfl
  | publicKey hpublic => exact withKeyText_eq hpublic _
  | bothKeys hpublic hprivate =>
    exact (withKeyText_eq hpublic _).trans (withKeyText_eq hprivate _)

end

/-! ## Runs -/

namespace ValidationRun

variable {octets : Bytes} {recipient : Option Recipient} {chains : List Chain}

/-- What the program shows, and the files afterwards. -/
def result (run : ValidationRun octets recipient chains) (around : Surroundings) :
    Outcome × FileTree :=
  runWords FileTree.files around run.env run.words run.tree

/-- **A run shows the result of the check**, and changes no file. -/
theorem result_eq (run : ValidationRun octets recipient chains) (around : Surroundings) :
    run.result around =
      (match messageType octets recipient with
        | .error fault => .failure fault.message
        | .ok type => verdict run.file type (isValid chains around.clock octets recipient),
      run.tree) := by
  have hrun : run.result around =
      validateFile FileTree.files around.clock run.file run.store run.keys run.tree := by
    rw [result, runWords, run.request_eq]
    rfl
  have hlist : FileTree.files.list run.store run.tree = (run.tree.list run.store, run.tree) := rfl
  rw [hrun, validateFile, withMessage_eq run.message_eq, withRecipient_eq run.recipient_given]
  simp only [bind, StateT.bind, hlist, run.chains_eq]
  cases messageType octets recipient <;> rfl

/-- A message that can be opened is shown to be valid exactly if it is so as one of its kind. -/
theorem outcome_of_agreement {clock : Clock} {opened : OpenedMessage}
    (h : Agreement chains clock octets recipient opened)
    (run : ValidationRun octets recipient chains) (entropy : Bytes) :
    ((run.result ⟨clock, entropy⟩).1.code = 0 ↔
        isValidAs opened.body.messageType chains clock octets recipient = .ok true) ∧
      ((run.result ⟨clock, entropy⟩).1 = .success (validReport opened.body.messageType) ↔
        isValidAs opened.body.messageType chains clock octets recipient = .ok true) := by
  rw [run.result_eq, h.kind_eq, h.isValidAs_kind]
  dsimp only
  cases hvalid : isValid chains clock octets recipient with
  | ok answer =>
    obtain rfl := (isValid_eq_ok_iff.mp hvalid).1
    exact ⟨iff_of_true rfl rfl, iff_of_true rfl rfl⟩
  | error fault =>
    refine ⟨iff_of_false ?_ nofun, iff_of_false ?_ nofun⟩
    · exact fun hcode => nomatch (show (1 : UInt32) = 0 from hcode)
    · exact fun hout => nomatch (show (1 : UInt32) = 0 from congrArg Outcome.code hout)

end ValidationRun

/-- **All ways of reading and checking a message agree.** If it can be opened then its kind is known,
who expects that kind reads the same and comes to the same result, who expects another kind refuses,
and the command line shows that it is valid exactly if it is so. If it cannot be opened then all ways
refuse it with the same fault, up to the kind that is named in it. -/
theorem entryPoints_agree (chains : List Chain) (clock : Clock) (octets : Bytes)
    (recipient : Option Recipient) :
    (∀ opened, parse octets recipient = .ok opened →
      Agreement chains clock octets recipient opened ∧
      ∀ (run : ValidationRun octets recipient chains) (entropy : Bytes),
        ((run.result ⟨clock, entropy⟩).1.code = 0 ↔
          isValidAs opened.body.messageType chains clock octets recipient = .ok true) ∧
        ((run.result ⟨clock, entropy⟩).1 = .success (validReport opened.body.messageType) ↔
          isValidAs opened.body.messageType chains clock octets recipient = .ok true)) ∧
    ∀ fault, parse octets recipient = .error fault →
      Refusal chains clock octets recipient fault ∧
      ∀ (run : ValidationRun octets recipient chains) (entropy : Bytes),
        (run.result ⟨clock, entropy⟩).1 = .failure fault.message := by
  refine ⟨fun opened h => ?_, fun fault h => ?_⟩
  · have hagree : Agreement chains clock octets recipient opened := agreement_of_parse h
    exact ⟨hagree, fun run => run.outcome_of_agreement hagree⟩
  · have hrefused : Refusal chains clock octets recipient fault := refusal_of_parse h
    refine ⟨hrefused, fun run entropy => ?_⟩
    rw [run.result_eq, hrefused.kind_eq]

/-! ## A valid message in a file -/

/-- The message `m`, and the directory `s` with the sample root in it. -/
def sampleTree (octets : Bytes) : FileTree :=
  ⟨[(["m"], .file octets), (["s"], .directory),
    (["s", "r"], .file (Utf8.encode sampleRoot.toPem))]⟩

/-- A path of one character other than `/` is one name. -/
theorem names_eq_singleton {path : String} (hsome : ¬String.Pos.Raw.atEnd path 0 = true)
    (hsep : ¬(String.Pos.Raw.get path 0 == String.Pos.Raw.get "/" 0) = true)
    (hone : String.Pos.Raw.atEnd path (String.Pos.Raw.next path 0) = true)
    (hpath : String.Pos.Raw.extract path 0 (String.Pos.Raw.next path 0) = path) :
    FileTree.names path = [path] := by
  rw [FileTree.names, String.splitOn, if_neg (by decide), String.splitOnAux, if_neg hsome,
    if_neg hsep, String.splitOnAux]
  exact (if_pos hone).trans (congrArg ([·]) hpath)

theorem read_sampleTree (octets : Bytes) : (sampleTree octets).read "m" = .ok octets := by
  have hnames : FileTree.names "m" = ["m"] :=
    names_eq_singleton (by decide) (by decide) (by decide) (by decide)
  have hplace : (sampleTree octets).place (FileTree.names "m") = .ok ["m"] := by
    rw [hnames]
    rfl
  rw [FileTree.read, FileTree.node, hplace]
  rfl

/-- The file with the sample root, as an entry of its directory. -/
def sampleEntry : DirectoryEntry :=
  ⟨Utf8.encode "r", some (.ok (Utf8.encode sampleRoot.toPem))⟩

theorem list_sampleTree (octets : Bytes) : (sampleTree octets).list "s" = .ok [sampleEntry] := by
  have hnames : FileTree.names "s" = ["s"] :=
    names_eq_singleton (by decide) (by decide) (by decide) (by decide)
  have hplace : (sampleTree octets).place (FileTree.names "s") = .ok ["s"] := by
    rw [hnames]
    rfl
  rw [FileTree.list, hplace]
  rfl

theorem chain_sampleEntry : sampleEntry.chain "s" = .ok sampleChain := by
  have hread : Certificate.ofBundle? (Utf8.encode sampleRoot.toPem) = some [sampleRoot] := by
    rw [Certificate.encode_toPem]
    decide +kernel
  exact DirectoryEntry.chain_eq_ok_iff.mpr ⟨_, _, rfl, hread, [], [], rfl, rfl⟩

theorem trustStoreChains_sampleTree (octets : Bytes) :
    trustStoreChains "s" ((sampleTree octets).list "s") = .ok [sampleChain] := by
  have hcounts : sampleEntry.isChainFile = true := rfl
  have hfiles : chainFiles [sampleEntry] = [sampleEntry] := by
    rw [chainFiles, List.filter_singleton, hcounts]
    exact List.mergeSort_singleton _
  rw [list_sampleTree, trustStoreChains, hfiles]
  exact mapM_eq_ok_iff.mpr (.cons chain_sampleEntry .nil)

/-- The words `validate m -t s`, with the message in the file `m`. -/
def sampleRun (octets : Bytes) : ValidationRun octets none [sampleChain] where
  tree := sampleTree octets
  env := []
  words := ["validate", "m", "-t", "s"]
  file := "m"
  store := "s"
  keys := ⟨none, none⟩
  request_eq := by decide +kernel
  message_eq := read_sampleTree octets
  recipient_given := .nobody none
  chains_eq := trustStoreChains_sampleTree octets

/-- A payment without owners is shown to be valid; a file without octets is refused. -/
theorem entryPoints_agree_samples :
    (∃ opened, parse (plainOctets ⟨0⟩ ownerlessPayment sampleSettings) none = .ok opened ∧
      Agreement [sampleChain] ⟨0⟩ (plainOctets ⟨0⟩ ownerlessPayment sampleSettings) none opened ∧
      ((sampleRun (plainOctets ⟨0⟩ ownerlessPayment sampleSettings)).result ⟨⟨0⟩, []⟩).1 =
        .success (validReport .payment)) ∧
    ∃ fault, parse [] none = .error fault ∧ Refusal [sampleChain] ⟨0⟩ [] none fault ∧
      ((sampleRun []).result ⟨⟨0⟩, []⟩).1 = .failure fault.message := by
  constructor
  · have hlen : (plainOctets ⟨0⟩ ownerlessPayment sampleSettings).length < Codec.sizeLimit := by
      decide +kernel
    obtain ⟨metadata, hparse⟩ := exists_parseAs_plainOctets none hlen
    have hopen := parse_of_parseAs hparse
    obtain ⟨hagree, hrun⟩ := (entryPoints_agree [sampleChain] ⟨0⟩ _ none).1 _ hopen
    refine ⟨_, hopen, hagree, (hrun (sampleRun _) []).2.mpr ?_⟩
    exact isValidAs_eq_ok_iff.mpr ⟨rfl, _, hparse, isAsserted_ownerlessPayment.checkBody⟩
  · have hopen : ∃ fault, parse [] none = .error fault := ⟨_, rfl⟩
    obtain ⟨fault, hopen⟩ := hopen
    obtain ⟨hrefused, hrun⟩ := (entryPoints_agree [sampleChain] ⟨0⟩ [] none).2 fault hopen
    exact ⟨fault, hopen, hrefused, hrun (sampleRun []) []⟩

end AttestedPayments.CommandLine
