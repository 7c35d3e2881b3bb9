import AttestedPayments.Trust.Chain

/-!
# Directories of trusted chains

Every file of a directory holds one chain. Files whose name starts with a dot or is no text, and
everything that is not a file, are passed over. Chains are loaded in the order of the file names.

* `DirectoryEntry` — a name in a directory and what it stands for.
* `trustStoreChains` — the chains of a directory, or the fault of the first file that holds none.
-/

namespace AttestedPayments

/-- A name in a directory. What stands under it is a file, with what reading it gives, or something
else. -/
structure DirectoryEntry where
  name : Bytes
  file : Option (Except FileFault Bytes)

namespace DirectoryEntry

/-- The octet of a dot. -/
def dot : UInt8 := 46

/-- The name as text, unless it hides the entry. -/
def visibleName? (entry : DirectoryEntry) : Option String :=
  if entry.name.head? = some dot then none else (Utf8.decode entry.name).toOption

/-- Whether an entry counts: a file with a visible name. -/
def isChainFile (entry : DirectoryEntry) : Bool :=
  entry.file.isSome && entry.visibleName?.isSome

end DirectoryEntry

/-- A name inside a directory as a path. -/
def joinPath (directory name : String) : String :=
  if directory = "" ∨ directory.endsWith "/" then directory ++ name
  else directory ++ "/" ++ name

/-- The chain of an entry that counts. -/
def DirectoryEntry.chain (directory : String) (entry : DirectoryEntry) : Except ChainFault Chain :=
  let path := joinPath directory (entry.visibleName?.getD "")
  match entry.file with
  | none => .error (.unreadableFile path .notFound)
  | some (.error fault) => .error (.unreadableFile path fault)
  | some (.ok octets) => Chain.ofBundle path octets

/-- The entries that count, in the order of their names. -/
def chainFiles (entries : List DirectoryEntry) : List DirectoryEntry :=
  (entries.filter DirectoryEntry.isChainFile).mergeSort fun a b =>
    Certificate.octetsLe a.name b.name

/-- The chains of a directory. -/
def trustStoreChains (directory : String) (listing : Except ListingFault (List DirectoryEntry)) :
    Except ChainFault (List Chain) :=
  match listing with
  | .error fault => .error (.unreadableStore directory fault)
  | .ok entries =>
    let files := chainFiles entries
    if files.isEmpty then .error (.emptyStore directory)
    else files.mapM (DirectoryEntry.chain directory)

end AttestedPayments
