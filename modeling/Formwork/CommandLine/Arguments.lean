import Formwork.Dict
import Formwork.Text.Cut

/-! # Arguments

Options have a letter and a name, and some take a value: `-l warn`, `-lwarn`, `-l=warn`,
`--level warn` and `--level=warn` say the same. Options without values share a hyphen.
Two hyphens alone end the options. All else are operands, or the name of a command,
which ends the reading. An option that waits for its value is settled when the next
option or operand begins.
-/

namespace Formwork.CommandLine

/-- What belongs to an option. A path is not empty. -/
inductive Operand where
  | nothing
  | text
  | path
deriving DecidableEq

/-- An option. -/
structure Switch where
  letter : Char
  name : String
  operand : Operand
deriving DecidableEq

/-- What is wrong with arguments. -/
inductive UsageError where
  | unknownArgument (text : String)
  | unknownCommand (text : String)
  | missingValue (name : String)
  | unexpectedValue (name : String)
  | emptyPath (name : String)
  | repeated (name : String)
  | missingArgument (name : String)
  | missingCommand
deriving DecidableEq

/-- The error in words. -/
def UsageError.message : UsageError → String
  | unknownArgument text => "unexpected argument '" ++ text ++ "' found"
  | unknownCommand text => "unrecognized subcommand '" ++ text ++ "'"
  | missingValue name => "a value is required for '" ++ name ++ "' but none was supplied"
  | unexpectedValue name => "unexpected value for '" ++ name ++ "' found; no more were expected"
  | emptyPath name => "a value is required for '" ++ name ++ "' but none was supplied"
  | repeated name => "the argument '" ++ name ++ "' cannot be used multiple times"
  | missingArgument name => "the required argument '" ++ name ++ "' was not provided"
  | missingCommand => "a subcommand is required but one was not provided"

/-- Why arguments are not read to their end: someone asks for help on a topic, or they
are wrong. -/
inductive Stop (Topic : Type) where
  | help (topic : Topic)
  | misuse (error : UsageError)
deriving DecidableEq

/-- What can be said in arguments. Help is given on `topic`; without a limit there may
be any number of operands. -/
structure Grammar (Topic : Type) where
  topic : Topic
  switches : List Switch
  commands : List String := []
  operandLimit : Option Nat := some 0

/-- What was said in arguments: options by name, with the last one perhaps not settled
yet, operands, and a command with what follows it. -/
structure Reading where
  options : Dict String := ∅
  waiting : Option (Switch × Option String) := none
  operands : List String := []
  optionsEnded : Bool := false
  command : Option (String × List String) := none

/-- An argument by its form. -/
inductive Word where
  | separator
  | long (name : String) (value : Option String)
  | letters (letters : List Char)
  | plain (text : String)
deriving DecidableEq

/-- The form of an argument; a hyphen alone is plain. -/
def Word.ofText (s : String) : Word :=
  match s.toList with
  | ['-', '-'] => separator
  | '-' :: '-' :: rest =>
    match Cut.atFirst? (· == '=') rest with
    | some (name, value) => long (String.ofList name) (some (String.ofList value))
    | none => long (String.ofList rest) none
  | '-' :: c :: rest => letters (c :: rest)
  | _ => plain s

namespace Reading

variable {Topic : Type}

/-- An option still waits for its value. -/
def isWaiting (r : Reading) : Bool :=
  match r.waiting with
  | some (_, none) => true
  | _ => false

/-- Settles the last option: it has the value that it needs, and was not given
before. -/
def settle (r : Reading) : Except (Stop Topic) Reading :=
  match r.waiting with
  | none => .ok r
  | some (switch, none) => .error (.misuse (.missingValue switch.name))
  | some (switch, some value) =>
    if switch.operand = .path ∧ value.isEmpty then .error (.misuse (.emptyPath switch.name))
    else if r.options.contains switch.name then .error (.misuse (.repeated switch.name))
    else .ok { r with options := r.options.insert switch.name value, waiting := none }

/-- Begins an option. -/
def await (r : Reading) (switch : Switch) : Except (Stop Topic) Reading := do
  return { ← r.settle with waiting := some (switch, none) }

/-- Adds an option with its value. -/
def give (r : Reading) (switch : Switch) (value : String) : Except (Stop Topic) Reading := do
  settle { ← r.settle with waiting := some (switch, some value) }

/-- The option was given. -/
def has (r : Reading) (name : String) : Bool := r.options.contains name

end Reading

namespace Grammar

variable {Topic : Type}

/-- Reads an option that is written with its name. -/
def readLong (g : Grammar Topic) (r : Reading) (name : String) (value : Option String) :
    Except (Stop Topic) Reading :=
  if name = "help" then
    match value with
    | none => r.settle >>= fun _ => .error (.help g.topic)
    | some _ => .error (.misuse (.unexpectedValue name))
  else
    match g.switches.find? (·.name == name), value with
    | none, _ => .error (.misuse (.unknownArgument ("--" ++ name)))
    | some switch, some value =>
      if switch.operand = .nothing then .error (.misuse (.unexpectedValue name))
      else r.give switch value
    | some switch, none => if switch.operand = .nothing then r.give switch "" else r.await switch

/-- Reads options that are written with their letters. -/
def readLetters (g : Grammar Topic) (r : Reading) : List Char → Except (Stop Topic) Reading
  | [] => .ok r
  | c :: rest =>
    if c = 'h' then r.settle >>= fun _ => .error (.help g.topic)
    else
      match g.switches.find? (·.letter == c) with
      | none => .error (.misuse (.unknownArgument (String.ofList ['-', c])))
      | some switch =>
        if switch.operand = .nothing then do readLetters g (← r.give switch "") rest
        else
          match rest with
          | [] => r.await switch
          | '=' :: value => r.give switch (String.ofList value)
          | value => r.give switch (String.ofList value)

/-- Adds an operand. -/
def addOperand (g : Grammar Topic) (r : Reading) (text : String) : Except (Stop Topic) Reading := do
  let r ← r.settle
  match g.operandLimit with
  | some limit =>
    if r.operands.length < limit then return { r with operands := r.operands ++ [text] }
    else throw (.misuse (.unknownArgument text))
  | none => return { r with operands := r.operands ++ [text] }

/-- Reads arguments up to a command or to their end, where an option may be left to be
settled. -/
def readFrom (g : Grammar Topic) (r : Reading) : List String → Except (Stop Topic) Reading
  | [] => .ok r
  | text :: rest =>
    if r.optionsEnded then do readFrom g (← g.addOperand r text) rest
    else if !r.isWaiting && g.commands.contains text then
      .ok { r with command := some (text, rest) }
    else
      match Word.ofText text with
      | .separator => readFrom g { r with optionsEnded := true } rest
      | .long name value => do readFrom g (← g.readLong r name value) rest
      | .letters letters => do readFrom g (← g.readLetters r letters) rest
      | .plain text =>
        match r.waiting with
        | some (switch, none) => readFrom g { r with waiting := some (switch, some text) } rest
        | _ => do readFrom g (← g.addOperand r text) rest

/-- Reads arguments up to a command or to their end. -/
def read (g : Grammar Topic) (arguments : List String) : Except (Stop Topic) Reading :=
  g.readFrom {} arguments

/-- Reads all arguments. -/
def readAll (g : Grammar Topic) (arguments : List String) : Except (Stop Topic) Reading := do
  (← g.read arguments).settle

end Grammar

end Formwork.CommandLine
