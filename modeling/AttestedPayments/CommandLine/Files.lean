import AttestedPayments.Fault
import AttestedPayments.Trust.Store

/-!
# Files

* `Files` — what commands need from a file system.
* `FileTree` — directories and files as a value; `FileTree.files` answers for it as a file system
  would.

A path is a list of names, counted from the working directory; empty names and the name `.` mean
the directory itself, and `..` the one above. A path that ends in an empty name can only be that of
a directory.
-/

namespace AttestedPayments.CommandLine

/-- What commands need from a file system. -/
structure Files (m : Type → Type) where
  read : String → m (Except FileFault Bytes)
  list : String → m (Except ListingFault (List DirectoryEntry))
  write : String → Bytes → m (Except FileFault Unit)
  createDirectories : String → m (Except FileFault Unit)
  isThere : String → m Bool

/-- What stands at a place. -/
inductive Node where
  | directory
  | file (octets : Bytes)
  deriving DecidableEq, Repr

/-- Directories and files below a working directory, each with the names that lead to it. A later
entry for one place counts less than an earlier one. -/
structure FileTree where
  nodes : List (List String × Node)
  deriving DecidableEq, Repr

namespace FileTree

/-- No files. -/
def empty : FileTree := ⟨[]⟩

/-- What stands at a place; the working directory is always there. -/
def at? (tree : FileTree) (place : List String) : Option Node :=
  if place = [] then some .directory else tree.nodes.lookup place

/-- Put something at a place. -/
def put (tree : FileTree) (place : List String) (node : Node) : FileTree :=
  ⟨(place, node) :: tree.nodes.filter fun n => n.1 != place⟩

/-- Go on from a directory by one name. -/
def stepTo (place : List String) (name : String) : List String :=
  if name = "" ∨ name = "." then place
  else if name = ".." then place.dropLast
  else place ++ [name]

/-- The most octets in the name of a file or a directory. -/
def maxNameLength : Nat := 255

/-- Whether nothing can have a name. -/
def isTooLong (name : String) : Bool := maxNameLength < name.utf8ByteSize

/-- Follow names from a place: everything but the last one must be a directory. -/
def follow (tree : FileTree) (place : List String) : List String → Except FileFault (List String)
  | [] => .ok place
  | name :: rest =>
    match tree.at? place with
    | none => .error .notFound
    | some (.file _) => .error .notDirectory
    | some .directory =>
      if isTooLong name then .error .nameTooLong else tree.follow (stepTo place name) rest

/-- The names of a path. -/
def names (path : String) : List String := path.splitOn "/"

/-- The names of a path without empty ones at the end. -/
def namesBeforeEnd (path : String) : List String :=
  ((names path).reverse.dropWhile (· = "")).reverse

/-- The place that names lead to. A path from the root of the file system leads nowhere. -/
def place (tree : FileTree) : List String → Except FileFault (List String)
  | [] => .error .notFound
  | "" :: _ => .error .notFound
  | names => tree.follow [] names

/-- What stands at a path. -/
def node (tree : FileTree) (path : String) : Except FileFault Node :=
  match tree.place (names path) with
  | .error fault => .error fault
  | .ok place =>
    match tree.at? place with
    | none => .error .notFound
    | some node => .ok node

/-- The octets of a file. -/
def read (tree : FileTree) (path : String) : Except FileFault Bytes :=
  match tree.node path with
  | .error fault => .error fault
  | .ok .directory => .error .isDirectory
  | .ok (.file octets) => .ok octets

/-- An entry of a directory, if a place lies directly in it. -/
def child? (directory : List String) (n : List String × Node) : Option DirectoryEntry :=
  match n.1.getLast? with
  | none => none
  | some name =>
    if n.1 = directory ++ [name] then
      match n.2 with
      | .directory => some ⟨Utf8.encode name, none⟩
      | .file octets => some ⟨Utf8.encode name, some (.ok octets)⟩
    else none

/-- The entries of a directory. Once it is opened, the listing of a tree does not break off. -/
def list (tree : FileTree) (path : String) : Except ListingFault (List DirectoryEntry) :=
  match tree.place (names path) with
  | .error fault => .error (.unopened fault)
  | .ok place =>
    match tree.at? place with
    | none => .error (.unopened .notFound)
    | some (.file _) => .error (.unopened .notDirectory)
    | some .directory => .ok (tree.nodes.filterMap (child? place))

/-- Write a file into a directory that is there. -/
def write (tree : FileTree) (path : String) (octets : Bytes) : Except FileFault FileTree :=
  match tree.place (namesBeforeEnd path) with
  | .error fault => .error fault
  | .ok place =>
    match tree.at? place.dropLast, tree.at? place with
    | none, _ => .error .notFound
    | some (.file _), _ => .error .notDirectory
    | some .directory, some .directory => .error .isDirectory
    | some .directory, _ =>
      if path.endsWith "/" then .error .isDirectory else .ok (tree.put place (.file octets))

/-- Create the directories of a list of names from a place on. -/
def createFrom (tree : FileTree) (place : List String) :
    List String → Except FileFault FileTree
  | [] => .ok tree
  | name :: rest =>
    if isTooLong name then .error .nameTooLong
    else
      let place := stepTo place name
      match tree.at? place with
      | some .directory => tree.createFrom place rest
      | some (.file _) => .error (if rest = [] then .exists else .notDirectory)
      | none => (tree.put place .directory).createFrom place rest

/-- Create a directory and those above it, as far as they are not there. -/
def createDirectories (tree : FileTree) (path : String) : Except FileFault FileTree :=
  if path.startsWith "/" then .error .notFound else tree.createFrom [] (namesBeforeEnd path)

/-- Change a tree if that is possible. -/
def change (update : FileTree → Except FileFault FileTree) :
    StateM FileTree (Except FileFault Unit) :=
  fun tree =>
    match update tree with
    | .error fault => (.error fault, tree)
    | .ok tree => (.ok (), tree)

/-- A file system whose state is a tree. -/
def files : Files (StateM FileTree) where
  read path := fun tree => (tree.read path, tree)
  list path := fun tree => (tree.list path, tree)
  write path octets := change fun tree => tree.write path octets
  createDirectories path := change fun tree => tree.createDirectories path
  isThere path := fun tree => ((tree.node path).isOk, tree)

end FileTree

end AttestedPayments.CommandLine
