import Formwork.Rule.Basic

/-! # Rule texts

The rules of a field are declared in one text, cut at `|`, or as a list of texts.
A text is a name, or letters, a colon and an argument without colons and line
ends; a text of any other form is a name as a whole.
-/

namespace Formwork

/-- The name of a rule, and its argument. -/
structure Token where
  name : String
  argument : Option String
deriving DecidableEq

namespace Token

/-- Letters, a colon, and an argument without colons and line ends. -/
def isParameterized (cs : List Char) : Bool :=
  match Cut.atFirst? (· == ':') cs with
  | some (name, argument) =>
    !name.isEmpty && name.all CharClass.isAsciiLetter && argument.all fun c => c != ':' && c != '\n'
  | none => false

/-- Reads one rule text. -/
def parse (raw : String) : Except RuleError Token :=
  if isParameterized raw.toList then
    match Text.split ':' raw with
    | [name, argument] => .ok ⟨name, some argument⟩
    | _ => .error (.malformed raw)
  else .ok ⟨raw, none⟩

/-- The text of a token. -/
def text (t : Token) : String :=
  match t.argument with
  | some argument => t.name ++ ":" ++ argument
  | none => t.name

end Token

/-- The rules of one field as declared. -/
inductive RuleSpec where
  | piped (text : String)
  | list (texts : List String)
deriving DecidableEq

namespace RuleSpec

/-- The rule texts in order. -/
def texts : RuleSpec → List String
  | piped text => Text.split '|' text
  | list texts => texts

/-- The tokens in order. -/
def tokens (spec : RuleSpec) : Except RuleError (List Token) := spec.texts.mapM Token.parse

/-- Reads a declaration: a text or a list of texts. -/
def ofJson? : Json → Option RuleSpec
  | .string text => some (piped text)
  | .array items => (items.mapM Json.asString?).map list
  | _ => none

end RuleSpec

/-- Rules by field; the order of fields has no meaning. -/
abbrev Rules := Dict RuleSpec

/-- Reads rules by field. -/
def Rules.ofJson? (j : Json) : Option Rules := do
  let members ← j.asObject?
  let pairs ← members.mapM fun (field, spec) => (RuleSpec.ofJson? spec).map (field, ·)
  return Dict.ofList pairs

end Formwork
