import Formwork.CommandLine.Arguments
import Formwork.FileTree
import Formwork.Json.Printer
import Formwork.Rule.Document
import Formwork.Rule.Schema
import Formwork.Settings.Reading

/-! # Commands

Two commands: one reads the settings in a file and tells about them, the other
validates values against rules in a file. A command ends with a status and what it
prints: zero for success, one if it fails or values are not valid, two if its
arguments are wrong.
-/

namespace Formwork.CommandLine

/-- A command with its arguments. A file of messages is optional. -/
inductive Command where
  | checkSettings (file : String)
  | validate (rules : String) (messages : Option String) (isMultipart : Bool)
      (fields : List String)
deriving DecidableEq

/-- What one can ask for help on. -/
inductive Topic where
  | overview
  | checkSettings
  | validate
  | help
deriving DecidableEq

/-- The name of the program. -/
def program : String := "velum"

/-- The name of the command that checks settings. -/
def checkSettingsName : String := "check-config"

/-- The name of the command that validates values. -/
def validateName : String := "validate"

/-- The name of the command that gives help. -/
def helpName : String := "help"

namespace Topic

/-- The lines of the help on a topic. -/
def lines : Topic → List String
  | overview =>
    ["Config and form validation tools for velum applications",
      "",
      "Usage: " ++ program ++ " [OPTIONS] <COMMAND>",
      "",
      "Commands:",
      "  check-config  Load a config file and print a summary",
      "  validate      Validate field values against a YAML rule set",
      "  help          Print this message or the help of the given subcommand(s)",
      "",
      "Options:",
      "  -l, --log-level <LOG_LEVEL>  Log level used when RUST_LOG is not set [default: warn]",
      "  -h, --help                   Print help"]
  | checkSettings =>
    ["Load a config file and print a summary",
      "",
      "Usage: " ++ program ++ " check-config <FILE>",
      "",
      "Arguments:",
      "  <FILE>  Path to the YAML config file",
      "",
      "Options:",
      "  -h, --help  Print help"]
  | validate =>
    ["Validate field values against a YAML rule set",
      "",
      "Usage: " ++ program ++ " validate [OPTIONS] --rules <RULES> [FIELDS]...",
      "",
      "Arguments:",
      "  [FIELDS]...  Field values as `field=value`",
      "",
      "Options:",
      "  -r, --rules <RULES>          YAML map of field name to rules",
      "  -o, --overrides <OVERRIDES>  YAML map of field name to rule name to message",
      "  -m, --multipart              Use the multipart vocabulary; `field=@path` attaches a file",
      "  -h, --help                   Print help"]
  | help =>
    ["Print this message or the help of the given subcommand(s)",
      "",
      "Usage: " ++ program ++ " help [COMMAND]...",
      "",
      "Arguments:",
      "  [COMMAND]...  Print help for the subcommand(s)"]

/-- The help on a topic. -/
def text (t : Topic) : String := Text.join "\n" t.lines ++ "\n"

/-- The topic that names of commands lead to. -/
def ofCommands : List String → Except UsageError Topic
  | [] => .ok overview
  | name :: rest =>
    let topic? : Option Topic :=
      if name = checkSettingsName then some checkSettings
      else if name = validateName then some validate
      else if name = helpName then some help
      else none
    match topic?, rest with
    | some topic, [] => .ok topic
    | some _, name :: _ => .error (.unknownCommand name)
    | none, _ => .error (.unknownCommand name)

end Topic

namespace Command

/-- What comes in front of a command. -/
def frontGrammar : Grammar Topic where
  topic := .overview
  switches := [⟨'l', "log-level", .text⟩]
  commands := [checkSettingsName, validateName, helpName]

/-- The arguments of the command that checks settings. -/
def checkSettingsGrammar : Grammar Topic where
  topic := .checkSettings
  switches := []
  operandLimit := some 1

/-- The arguments of the command that validates values. -/
def validateGrammar : Grammar Topic where
  topic := .validate
  switches := [⟨'r', "rules", .path⟩, ⟨'o', "overrides", .path⟩, ⟨'m', "multipart", .nothing⟩]
  operandLimit := none

/-- Reads the arguments of the command that checks settings. -/
def ofCheckSettings (arguments : List String) : Except (Stop Topic) Command := do
  match (← checkSettingsGrammar.readAll arguments).operands with
  | [file] =>
    if file.isEmpty then throw (.misuse (.emptyPath "FILE")) else return checkSettings file
  | _ => throw (.misuse (.missingArgument "FILE"))

/-- Reads the arguments of the command that validates values. -/
def ofValidate (arguments : List String) : Except (Stop Topic) Command := do
  let r ← validateGrammar.readAll arguments
  match r.options.get? "rules" with
  | some rules => return validate rules (r.options.get? "overrides") (r.has "multipart") r.operands
  | none => throw (.misuse (.missingArgument "rules"))

/-- Reads a command by its name. Names lead to help behind the name of help. -/
def ofName (name : String) (arguments : List String) : Except (Stop Topic) Command :=
  if name = checkSettingsName then ofCheckSettings arguments
  else if name = validateName then ofValidate arguments
  else
    match Topic.ofCommands arguments with
    | .ok topic => .error (.help topic)
    | .error error => .error (.misuse error)

/-- Reads a command. What comes in front of it is settled behind it. -/
def parse (arguments : List String) : Except (Stop Topic) Command := do
  let r ← frontGrammar.read arguments
  match r.command with
  | some (name, rest) =>
    let command ← ofName name rest
    let settled : Except (Stop Topic) Reading := r.settle
    settled.map fun _ => command
  | none => throw (.misuse .missingCommand)

end Command

/-- Why a command fails. -/
inductive Failure where
  | settings (error : SettingsError)
  | unreadable (path : String)
  | malformed (path : String)
  | noPair (text : String)
  | rules (error : RuleError)
deriving DecidableEq

/-- The failure in words. -/
def Failure.message : Failure → String
  | settings error => error.message
  | unreadable path => "`" ++ path ++ "` cannot be read"
  | malformed path => "`" ++ path ++ "` is malformed"
  | noPair text => "`" ++ text ++ "` is not of the form field=value"
  | rules error => error.message

/-- How a command ends: the status, what it prints, and what it complains about. -/
structure Outcome where
  status : Nat
  output : String := ""
  complaint : String := ""
deriving DecidableEq

namespace Outcome

/-- Arguments were not read to their end. -/
def ofStop : Stop Topic → Outcome
  | .help topic => ⟨0, topic.text, ""⟩
  | .misuse error => ⟨2, "", "error: " ++ error.message ++ "\n"⟩

/-- The command failed. -/
def ofFailure (failure : Failure) : Outcome := ⟨1, "", "Error: " ++ failure.message ++ "\n"⟩

/-- Settings in a few lines. -/
def ofSettings (s : Settings) : Outcome :=
  let lines :=
    ["port:           " ++ toString s.port] ++
    (if s.staticFiles.isServed then
      ["static:         " ++ s.staticFiles.path ++ " -> " ++ s.staticFiles.directory] else []) ++
    ["body limit:     " ++ toString s.limits.bodySize ++ " bytes",
      "request timeout: " ++ toString s.limits.timeout ++ "s",
      "sessions:       " ++ if s.sessionKey.isEmpty then "disabled" else "enabled"] ++
    (if s.observability.metricsEnabled then
      ["metrics:        " ++ s.observability.metricsAddress] else [])
  ⟨0, Text.join "\n" lines ++ "\n", ""⟩

/-- Valid data, or the errors. -/
def ofValidated : Validated → Outcome
  | .valid data => ⟨0, report "data" data.toJson true, ""⟩
  | .invalid errors =>
    let members := errors.entries.map fun (field, text) => (field, Json.string text)
    ⟨1, report "errors" (.object members) false, ""⟩
where
  report (name : String) (content : Json) (isValid : Bool) : String :=
    (Json.object [(name, content), ("valid", .bool isValid)]).canonical.renderPretty ++ "\n"

end Outcome

namespace Command

variable {m : Type → Type} [Monad m]

/-- Reads a file. -/
def readFile (read : String → m (Option Bytes)) (path : String) : ExceptT Failure m Bytes := do
  match ← (read path : m (Option Bytes)) with
  | some content => return content
  | none => throw (.unreadable path)

/-- Reads a document of which `parse?` makes sense. -/
def readDocument {α : Type} (read : String → m (Option Bytes)) (parse? : String → Option α)
    (path : String) : ExceptT Failure m α := do
  match Utf8.decode? (← readFile read path) with
  | none => throw (.unreadable path)
  | some text =>
    match parse? text with
    | some document => return document
    | none => throw (.malformed path)

/-- Cuts a text with a field and its value. -/
def pairOf (text : String) : Except Failure (String × String) :=
  match Text.splitOnce? '=' text with
  | some pair => .ok pair
  | none => .error (.noPair text)

/-- Adds a value to a form, or a file where the value is an at sign and a path. -/
def attach (read : String → m (Option Bytes)) (form : MultipartForm) (pair : String × String) :
    ExceptT Failure m MultipartForm := do
  match Text.afterHead? "@" pair.2 with
  | some path =>
    let file : File := ⟨FileTree.lastName? path, none, ← readFile read path⟩
    return { form with files := form.files ++ [(pair.1, file)] }
  | none => return { form with values := form.values ++ [pair] }

/-- Validates values against rules. -/
def runValidate (read : String → m (Option Bytes)) (rules : String) (messages : Option String)
    (isMultipart : Bool) (fields : List String) : ExceptT Failure m Outcome := do
  let rules ← readDocument read Rules.parseYaml? rules
  let overrides ← match messages with
    | some path => readDocument read Overrides.parseYaml? path
    | none => pure ∅
  let pairs ← liftExcept (fields.mapM pairOf)
  let validated ←
    if isMultipart then do
      let form ← pairs.foldlM (attach read) {}
      liftExcept ((form.validate rules overrides).mapError .rules)
    else liftExcept (((Form.mk pairs).validate rules overrides).mapError .rules)
  return .ofValidated validated
where
  liftExcept {α : Type} (x : Except Failure α) : ExceptT Failure m α := ExceptT.mk (pure x)

/-- Checks settings. -/
def runCheckSettings (read : String → m (Option Bytes)) (file : String) :
    ExceptT Failure m Outcome := do
  match Settings.load (← (read file : m (Option Bytes))) with
  | .ok settings => return .ofSettings settings
  | .error error => throw (.settings error)

/-- Runs a command, given a way to read files. -/
def run (read : String → m (Option Bytes)) (command : Command) : m Outcome := do
  let result ← match command with
    | checkSettings file => (runCheckSettings read file).run
    | validate rules messages isMultipart fields =>
      (runValidate read rules messages isMultipart fields).run
  return match result with
    | .ok outcome => outcome
    | .error failure => .ofFailure failure

/-- Runs the command that arguments ask for. -/
def execute (read : String → m (Option Bytes)) (arguments : List String) : m Outcome :=
  match parse arguments with
  | .ok command => command.run read
  | .error stop => pure (.ofStop stop)

end Command

end Formwork.CommandLine
