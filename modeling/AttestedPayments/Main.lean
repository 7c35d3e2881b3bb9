import AttestedPayments.CommandLine.Run
import Std.Time.DateTime.Timestamp

/-!
# The program

* `diskFiles` — the file system of the machine, as commands see it.
* `main` — run the words of the command line, print what comes out, and end with its exit code.
-/

namespace AttestedPayments.CommandLine

/-- A code of the operating system, which may come with its sign changed. -/
def systemCode (code : UInt32) : Nat :=
  if code < 0x80000000 then code.toNat else (0 - code).toNat

/-- What the operating system answers, as an answer of a file system. -/
def FileFault.ofSystem : IO.Error → FileFault
  | .noFileOrDirectory _ _ _ => .notFound
  | .alreadyExists _ _ _ => .exists
  | .inappropriateType _ code _ => if systemCode code = 21 then .isDirectory else .notDirectory
  | .permissionDenied _ _ _ => .other "Permission denied (os error 13)"
  | .invalidArgument path code details =>
    if systemCode code = 36 then .nameTooLong
    else .other (toString (IO.Error.invalidArgument path code details))
  | fault => .other (toString fault)

/-- Do something with the file system and keep its answer. -/
def answered {α : Type} (action : IO α) : IO (Except FileFault α) := do
  match ← action.toBaseIO with
  | .ok value => pure (.ok value)
  | .error fault => pure (.error (FileFault.ofSystem fault))

/-- A path as the root of what lies under it. -/
def rootEntry (path : String) : IO.FS.DirEntry := ⟨path, ""⟩

/-- Whether what is there is a file. -/
def isFile (data : IO.FS.Metadata) : Bool :=
  match data.type with
  | .file => true
  | _ => false

/-- An entry of a directory, with the octets of what is a file. -/
def diskEntry (entry : IO.FS.DirEntry) : IO DirectoryEntry := do
  let name := Utf8.encode entry.fileName
  match ← entry.path.metadata.toBaseIO with
  | .error _ => pure ⟨name, none⟩
  | .ok data =>
    if isFile data then
      let octets ← answered (IO.FS.readBinFile entry.path)
      pure ⟨name, some (octets.map ByteArray.toList)⟩
    else pure ⟨name, none⟩

/-- The file system of the machine. -/
def diskFiles : Files IO where
  read path := do
    let octets ← answered (IO.FS.readBinFile path)
    pure (octets.map ByteArray.toList)
  list path := do
    let entries ← answered do
      let entries ← (rootEntry path).root.readDir
      entries.toList.mapM diskEntry
    -- A directory is read as a whole here, so that a listing cannot be seen to break off.
    pure (entries.mapError ListingFault.unopened)
  write path octets := answered (IO.FS.writeBinFile path ⟨octets.toArray⟩)
  createDirectories path := answered (IO.FS.createDirAll path)
  isThere path := (rootEntry path).root.pathExists

/-- The moment at which the program runs. -/
def systemClock : IO Clock := do
  let moment ← Std.Time.Timestamp.now
  pure ⟨Int64.ofInt (moment.toNanosecondsSinceUnixEpoch.val / 1000)⟩

/-- The variables that options fall back to, as far as they are set. -/
def systemEnvironment : IO Environment :=
  [logFormatVariable, trustStoreVariable].filterMapM fun name => do
    let value ← IO.getEnv name
    pure (value.map fun text => (name, text))

end AttestedPayments.CommandLine

open AttestedPayments.CommandLine in
/-- Run the words of the command line. -/
def main (words : List String) : IO UInt32 := do
  let clock ← systemClock
  let entropy ← IO.getRandomBytes 256
  let env ← systemEnvironment
  let outcome ← runWords diskFiles ⟨clock, entropy.toList⟩ env words
  IO.print outcome.out
  IO.eprint outcome.err
  pure outcome.code
