import AttestedPayments.Bytes

/-!
# Arguments of the command line

* `Command` — what the program is asked to do.
* `OptionSpec`, `Level` — which options and which further word may stand after the program's name
  or after a command.
* `Level.read` — the words of one level, up to a command. Words are read from left to right, and
  the first one that is wrong or that asks for help or the version ends the reading.
* `Command.ofWords` — the command of all words; variables of the environment stand for options
  that are missing.

A word that starts with a minus sign is an option, unless it is a minus sign only or stands after
the word `--`. The value of an option is the next word, or follows its name and an equals sign, or
follows its letter at once.
-/

namespace AttestedPayments.CommandLine

/-- Files with the recipient's keys. -/
structure KeyFiles where
  privateKey : Option String
  publicKey : Option String
  deriving DecidableEq, Repr

/-- What the program is asked to do. -/
inductive Command where
  | inspect (file : String)
  | validate (file trustStore : String) (keys : KeyFiles)
  | parse (file : String) (keys : KeyFiles)
  | setStatus (file : String) (code : UInt32) (message out : String)
  | keygen (directory : String) (force : Bool)
  | version
  deriving DecidableEq, Repr

/-- Why the reading of words ends before a command is known. -/
inductive Stop where
  | refuse
  | help
  | version
  deriving DecidableEq, Repr

/-- What an option does. -/
inductive OptionKind where
  /-- May be repeated. -/
  | counted
  | switch
  /-- Has a value that must pass a test. -/
  | valued (accepts : String → Bool)
  | help
  | version

/-- An option, by its name and perhaps a letter. -/
structure OptionSpec where
  name : String
  letter : Option Char
  kind : OptionKind

/-- What may stand at one place of the command line. -/
structure Level where
  options : List OptionSpec
  /-- How many words that are no options may stand here. -/
  places : Nat
  /-- The names of commands that may stand here. -/
  commands : List String

/-- The words of a level, read so far. -/
structure Reading where
  /-- Options with their values, latest first. -/
  options : List (String × String)
  /-- Words that are no options, latest first. -/
  words : List String
  /-- The option whose value comes next. -/
  waiting : Option (OptionSpec × (String → Bool))
  /-- The word that ends the options has been read. -/
  plain : Bool

namespace Reading

/-- Nothing read yet. -/
def start : Reading := ⟨[], [], none, false⟩

def has (r : Reading) (name : String) : Bool := r.options.any fun o => o.1 == name

def value? (r : Reading) (name : String) : Option String :=
  (r.options.find? fun o => o.1 == name).map Prod.snd

/-- Note an option with its value. -/
def note (r : Reading) (name value : String) : Reading :=
  { r with options := (name, value) :: r.options, waiting := none }

/-- Note the value of an option that may stand only once. -/
def noteValue (r : Reading) (spec : OptionSpec) (accepts : String → Bool) (value : String) :
    Except Stop Reading :=
  if r.has spec.name || !accepts value then .error .refuse else .ok (r.note spec.name value)

/-- Read an option; its value may be attached to it. -/
def takeOption (r : Reading) (spec : OptionSpec) (attached : Option String) :
    Except Stop Reading :=
  match spec.kind, attached with
  | .valued accepts, some value => r.noteValue spec accepts value
  | .valued accepts, none => .ok { r with waiting := some (spec, accepts) }
  | _, some _ => .error .refuse
  | .help, none => .error .help
  | .version, none => .error .version
  | .counted, none => .ok (r.note spec.name "")
  | .switch, none =>
    if r.has spec.name then .error .refuse else .ok (r.note spec.name "")

/-- Read the letters of a word; what follows the letter of an option with a value is the value. -/
def takeLetters (r : Reading) (level : Level) : List Char → Except Stop Reading
  | [] => .ok r
  | c :: rest =>
    match level.options.find? fun o => o.letter == some c with
    | none => .error .refuse
    | some spec =>
      match spec.kind, rest with
      | .valued _, [] => r.takeOption spec none
      | .valued _, '=' :: value => r.takeOption spec (some (String.ofList value))
      | .valued _, value => r.takeOption spec (some (String.ofList value))
      | _, rest =>
        match r.takeOption spec none with
        | .error stop => .error stop
        | .ok r => r.takeLetters level rest

/-- Read a long option: a name, perhaps an equals sign and a value. -/
def takeName (r : Reading) (level : Level) (chars : List Char) : Except Stop Reading :=
  let name := String.ofList (chars.takeWhile (· ≠ '='))
  let attached :=
    match chars.dropWhile (· ≠ '=') with
    | [] => none
    | _ :: value => some (String.ofList value)
  match level.options.find? fun o => o.name == name with
  | none => .error .refuse
  | some spec => r.takeOption spec attached

/-- Read a word that is no option. -/
def takeWord (r : Reading) (level : Level) (word : String) : Except Stop Reading :=
  if r.words.length < level.places ∧ word ≠ "" then .ok { r with words := word :: r.words }
  else .error .refuse

end Reading

/-- A word that can only be an option. -/
def looksLikeOption (word : String) : Bool := word.startsWith "-" && word != "-"

/-- Read the words of a level; also the command that ends it, with the words that follow. -/
def Level.read (level : Level) (r : Reading) :
    List String → Except Stop (Reading × Option (String × List String))
  | [] => if r.waiting.isSome then .error .refuse else .ok (r, none)
  | word :: rest =>
    match r.waiting with
    | some (spec, accepts) =>
      if looksLikeOption word then .error .refuse
      else
        match r.noteValue spec accepts word with
        | .error stop => .error stop
        | .ok r => level.read r rest
    | none =>
      if !r.plain && level.commands.contains word then .ok (r, some (word, rest))
      else
        let next :=
          if r.plain || !looksLikeOption word then r.takeWord level word
          else if word = "--" then .ok { r with plain := true }
          else
            match word.toList with
            | '-' :: '-' :: chars => r.takeName level chars
            | chars => r.takeLetters level (chars.drop 1)
        match next with
        | .error stop => .error stop
        | .ok r => level.read r rest

/-- The environment: variables with their values. -/
abbrev Environment := List (String × String)

def Environment.get? (env : Environment) (name : String) : Option String := env.lookup name

/-- A path, which must not be empty. -/
def isPath (value : String) : Bool := value != ""

/-- A format of log lines, in upper or lower case. -/
def isLogFormat (value : String) : Bool :=
  let lower := value.map Char.toLower
  lower == "pretty" || lower == "json"

/-- A whole number with an optional sign, in decimal digits. -/
def integer? (value : String) : Option Int :=
  let digits? (chars : List Char) : Option Nat :=
    if chars ≠ [] ∧ chars.all Char.isDigit then
      some (chars.foldl (fun n c => 10 * n + (c.toNat - 48)) 0)
    else none
  match value.toList with
  | '-' :: chars => (digits? chars).map fun n => -(n : Int)
  | '+' :: chars => (digits? chars).map Int.ofNat
  | chars => (digits? chars).map Int.ofNat

/-- A number of four octets in decimal digits. -/
def code? (value : String) : Option UInt32 :=
  match integer? value with
  | some n => if 0 ≤ n ∧ n < 0x100000000 then some (UInt32.ofNat n.toNat) else none
  | none => none

/-- The options of every level. -/
def commonOptions : List OptionSpec :=
  [⟨"log-format", none, .valued isLogFormat⟩, ⟨"verbose", some 'v', .counted⟩,
   ⟨"help", some 'h', .help⟩, ⟨"version", some 'V', .version⟩]

/-- The options with the recipient's keys. -/
def keyOptions : List OptionSpec :=
  [⟨"recipient-private-key", none, .valued isPath⟩,
   ⟨"recipient-public-key", none, .valued isPath⟩]

def commandNames : List String :=
  ["inspect", "validate", "parse", "set-status", "keygen", "version"]

/-- What may stand after the program's name. -/
def topLevel : Level := ⟨commonOptions, 0, "help" :: commandNames⟩

/-- What may stand after a command. -/
def commandLevel (name : String) : Level :=
  match name with
  | "inspect" => ⟨commonOptions, 1, []⟩
  | "validate" =>
    ⟨⟨"trust-store", some 't', .valued isPath⟩ :: keyOptions ++ commonOptions, 1, []⟩
  | "parse" => ⟨keyOptions ++ commonOptions, 1, []⟩
  | "set-status" =>
    ⟨[⟨"code", none, .valued fun v => (code? v).isSome⟩,
      ⟨"message", none, .valued fun _ => true⟩,
      ⟨"out", some 'o', .valued isPath⟩] ++ commonOptions, 1, []⟩
  | "keygen" =>
    ⟨[⟨"out-dir", some 'o', .valued isPath⟩, ⟨"force", none, .switch⟩] ++ commonOptions, 0, []⟩
  | _ => ⟨commonOptions, 0, []⟩

/-- The variable that names the format of log lines. -/
def logFormatVariable : String := "BIP75_LOG_FORMAT"

/-- Whether the log format of a level is in order: given there, missing, or a good variable. -/
def logFormatAllowed (env : Environment) (r : Reading) : Bool :=
  r.has "log-format" || (env.get? logFormatVariable).all isLogFormat

/-- The files with the recipient's keys; the private key goes with the public one only. -/
def keyFiles? (r : Reading) : Option KeyFiles :=
  let keys : KeyFiles := ⟨r.value? "recipient-private-key", r.value? "recipient-public-key"⟩
  if keys.privateKey.isSome ∧ keys.publicKey.isNone then none else some keys

/-- The variable that names the directory of trusted chains. -/
def trustStoreVariable : String := "BIP75_TRUST_STORE"

/-- The directory of trusted chains, from its option or its variable. -/
def trustStore? (env : Environment) (r : Reading) : Option String :=
  match r.value? "trust-store" with
  | some directory => some directory
  | none => (env.get? trustStoreVariable).filter isPath

/-- The command of a name and the words after it. -/
def Command.ofReading? (env : Environment) (name : String) (r : Reading) : Option Command :=
  match name, r.words with
  | "inspect", [file] => some (.inspect file)
  | "validate", [file] => do
    let store ← trustStore? env r
    let keys ← keyFiles? r
    some (.validate file store keys)
  | "parse", [file] => (keyFiles? r).map (.parse file)
  | "set-status", [file] => do
    let code ← (r.value? "code").bind code?
    let out ← r.value? "out"
    some (.setStatus file code ((r.value? "message").getD "") out)
  | "keygen", [] => (r.value? "out-dir").map fun directory => .keygen directory (r.has "force")
  | "version", [] => some .version
  | _, _ => none

/-- What the words of the command line ask for. -/
inductive Request where
  | run (command : Command)
  | help
  /-- The version of the program, or of the command with the given name. -/
  | version (command : Option String)
  | refuse
  deriving DecidableEq, Repr

/-- The request of an ended reading at the level of a command or of the program. -/
def Stop.toRequest (command : Option String) : Stop → Request
  | refuse => .refuse
  | help => .help
  | version => .version command

/-- Whether help may be asked for about the named things: nothing, or one command. -/
def isHelpTopic : List String → Bool
  | [] => true
  | [name] => name == "help" || commandNames.contains name
  | _ => false

/-- The request of the words of the command line. -/
def Request.ofWords (env : Environment) (words : List String) : Request :=
  match topLevel.read Reading.start words with
  | .error stop => stop.toRequest none
  | .ok (_, none) => .refuse
  | .ok (top, some (name, rest)) =>
    if name = "help" then if isHelpTopic rest then .help else .refuse
    else
      match (commandLevel name).read Reading.start rest with
      | .error stop => stop.toRequest (some name)
      | .ok (r, _) =>
        match Command.ofReading? env name r with
        | some command =>
          if logFormatAllowed env top && logFormatAllowed env r then .run command else .refuse
        | none => .refuse

end AttestedPayments.CommandLine
