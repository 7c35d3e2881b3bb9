import AttestedPayments.CommandLine.Arguments
import AttestedPayments.CommandLine.Files
import AttestedPayments.Exchange.JsonForm
import AttestedPayments.Exchange.Reading

/-!
# Running commands

* `Outcome` — what the program prints, and whether it succeeded.
* `Command.run` — a command on a file system, at a moment, with a source of random octets.
* `runWords` — the whole command line.

A failure is reported as what was attempted, followed by the cause where there is one.
-/

namespace AttestedPayments.CommandLine

/-- What the program prints, and its exit code: 0 for success, 1 for a failure, 2 for words that
ask for nothing it can do. -/
structure Outcome where
  code : UInt32
  out : String
  err : String
  deriving DecidableEq, Repr

namespace Outcome

def success (out : String) : Outcome := ⟨0, out, ""⟩

/-- A failure with some output before it. -/
def failureAfter (out message : String) : Outcome := ⟨1, out, "Error: " ++ message ++ "\n"⟩

def failure (message : String) : Outcome := failureAfter "" message

/-- A failure in an attempt, with its cause. -/
def failureIn (attempt cause : String) : Outcome :=
  failure (attempt ++ "\n\nCaused by:\n    " ++ cause)

end Outcome

def programVersion : String := "0.1.0"

def programName : String := "bip75"

/-- A JSON value as a document of its own. -/
def document (value : Json) : String := value.pretty ++ "\n"

/-- What commands work with besides files: the moment, and random octets. -/
structure Surroundings where
  clock : Clock
  entropy : Bytes
  deriving DecidableEq, Repr

section

variable {m : Type → Type} [Monad m]

/-- Read a file with a message and go on. -/
def withMessage (files : Files m) (path : String) (next : Bytes → m Outcome) : m Outcome := do
  match ← files.read path with
  | .error fault =>
    pure (.failureIn ("failed to read message file " ++ path) fault.message)
  | .ok octets => next octets

/-- Read a file with a key as text and go on. -/
def withKeyText (files : Files m) (path : String) (next : String → m Outcome) : m Outcome := do
  let refused (fault : FileFault) : m Outcome :=
    pure (.failureIn ("failed to read key file " ++ path) fault.message)
  match ← files.read path with
  | .error fault => refused fault
  | .ok octets =>
    match Utf8.decode octets with
    | .error _ => refused .notText
    | .ok text => next text

/-- Read the files with the recipient's keys and go on; without a public key there is no
recipient. -/
def withRecipient (files : Files m) (keys : KeyFiles) (next : Option Recipient → m Outcome) :
    m Outcome :=
  match keys.publicKey with
  | none => next none
  | some publicPath =>
    withKeyText files publicPath fun publicPem =>
      match keys.privateKey with
      | none => next (some (Recipient.ofKeys ⟨none, publicPem⟩))
      | some privatePath =>
        withKeyText files privatePath fun privatePem =>
          next (some (Recipient.ofKeys ⟨some privatePem, publicPem⟩))

/-- Show what an envelope says without opening it. -/
def inspect (files : Files m) (file : String) : m Outcome :=
  withMessage files file fun octets => pure <|
    match readMetadata octets with
    | .error fault => .failureIn (file ++ " is not a BIP75 message") fault.message
    | .ok metadata => .success (document metadata.toJson)

/-- The report on a message whose kind is known. -/
def verdict (file : String) (type : MessageType) : Except Fault Bool → Outcome
  | .ok _ =>
    .success (document (.object [("valid", .bool true), ("message_type", .text type.text)]))
  | .error fault =>
    .failureAfter
      (document (.object [("valid", .bool false), ("message_type", .text type.text),
        ("error", .text fault.message)]))
      (file ++ " failed validation")

/-- Check a message against a directory of trusted chains. -/
def validateFile (files : Files m) (clock : Clock) (file store : String) (keys : KeyFiles) :
    m Outcome :=
  withMessage files file fun octets =>
    withRecipient files keys fun recipient => do
      match trustStoreChains store (← files.list store) with
      | .error fault =>
        pure (.failureIn ("failed to load trust store " ++ store) (Fault.chain fault).message)
      | .ok chains =>
        match messageType octets recipient with
        | .error fault => pure (.failure fault.message)
        | .ok type => pure (verdict file type (isValid chains clock octets recipient))

/-- Show body and metadata of a message without checking it. -/
def parseFile (files : Files m) (file : String) (keys : KeyFiles) : m Outcome :=
  withMessage files file fun octets =>
    withRecipient files keys fun recipient => pure <|
      match parse octets recipient with
      | .error fault => .failure fault.message
      | .ok opened =>
        .success (document (.object [("metadata", opened.metadata.toJson),
          ("body", opened.body.toJson)]))

/-- Write a message with another status to a file. -/
def setStatus (files : Files m) (file : String) (code : UInt32) (message out : String) :
    m Outcome :=
  match StatusCode.ofCode code with
  | .error what => pure (.failure what.message)
  | .ok code =>
    withMessage files file fun octets => do
      match changeStatus octets code message with
      | .error fault => pure (.failure fault.message)
      | .ok changed =>
        match ← files.write out changed with
        | .error fault => pure (.failureIn ("failed to write " ++ out) fault.message)
        | .ok _ => pure (.success "")

/-- The file of a private key in its directory. -/
def privateKeyFile : String := "private.pem"

/-- The file of a public key in its directory. -/
def publicKeyFile : String := "public.pem"

/-- Write the two files of a key pair one after the other. -/
def writePair (files : Files m) (privatePath publicPath : String) (pair : Curve.KeyPair) :
    m Outcome := do
  match ← files.write privatePath (Utf8.encode pair.privatePem) with
  | .error fault => pure (.failureIn ("failed to write " ++ privatePath) fault.message)
  | .ok _ =>
    match ← files.write publicPath (Utf8.encode pair.publicPem) with
    | .error fault => pure (.failureIn ("failed to write " ++ publicPath) fault.message)
    | .ok _ => pure (.success (publicPath ++ "\n"))

/-- Write a new key pair to a directory. -/
def generateKeys (files : Files m) (entropy : Bytes) (directory : String) (force : Bool) :
    m Outcome := do
  match ← files.createDirectories directory with
  | .error fault => pure (.failureIn ("failed to create " ++ directory) fault.message)
  | .ok _ =>
    let privatePath := joinPath directory privateKeyFile
    let publicPath := joinPath directory publicKeyFile
    let privateThere ← files.isThere privatePath
    let publicThere ← files.isThere publicPath
    if !force && (privateThere || publicThere) then
      pure (.failure ("key files already exist in " ++ directory ++
        " (use --force to overwrite)"))
    else
      match Curve.SecretKey.draw? entropy with
      | none => pure (.failure "the source of random octets gives no key")
      | some secret => writePair files privatePath publicPath (Curve.KeyPair.ofSecret secret)

/-- The versions of the program and of its envelopes. -/
def versionText : String :=
  programName ++ " " ++ programVersion ++ "\nenvelope version " ++
    toString protocolVersion.toNat ++ "\n"

/-- Run a command. -/
def Command.run (files : Files m) (around : Surroundings) : Command → m Outcome
  | .inspect file => CommandLine.inspect files file
  | .validate file store keys => validateFile files around.clock file store keys
  | .parse file keys => parseFile files file keys
  | .setStatus file code message out => CommandLine.setStatus files file code message out
  | .keygen directory force => generateKeys files around.entropy directory force
  | .version => pure (.success versionText)

/-- The line that names the program, or a command of it, with its version. -/
def versionLine (command : Option String) : String :=
  let suffix :=
    match command with
    | none => ""
    | some name => "-" ++ name
  programName ++ suffix ++ " " ++ programVersion ++ "\n"

/-- A short description of the command line. -/
def usage : String :=
  "Usage: bip75 [OPTIONS] <COMMAND>\n\nCommands:\n" ++
  String.join (commandNames.map fun name => "  " ++ name ++ "\n")

/-- Run the command line. -/
def runWords (files : Files m) (around : Surroundings) (env : Environment)
    (words : List String) : m Outcome :=
  match Request.ofWords env words with
  | .run command => command.run files around
  | .help => pure (.success usage)
  | .version command => pure (.success (versionLine command))
  | .refuse => pure ⟨2, "", usage⟩

end

end AttestedPayments.CommandLine
