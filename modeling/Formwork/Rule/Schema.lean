import Formwork.Rule.Check
import Formwork.Rule.Overrides

/-! # Schemas

A schema holds the rules of each field, resolved in a vocabulary. Validation runs
the rules of a field one after the other on a fresh state: a rule with an
argument is given the argument, one without is given the field's trimmed input.
The first failure ends a field, and so does a raised skip flag before the next
rule. A form is valid if no field fails; then each field holds the last working
value that stood when the skip flag was down.
-/

namespace Formwork

/-- A resolved rule with its argument. -/
structure Step where
  rule : Rule
  argument : Option String
deriving DecidableEq

namespace Step

/-- Resolves a token in a vocabulary. -/
def ofToken (vocabulary : Vocabulary) (token : Token) : Except RuleError Step :=
  (vocabulary.resolve token.name).map fun rule => ⟨rule, token.argument⟩

/-- The steps of a declaration. -/
def ofSpec (vocabulary : Vocabulary) (spec : RuleSpec) : Except RuleError (List Step) := do
  (← spec.tokens).mapM (ofToken vocabulary)

/-- The text that a step is given. -/
def input (step : Step) (source : Source) (field : String) : String :=
  step.argument.getD (Text.trim (source.get field))

/-- Runs a step. A step without argument that leaves no working value makes its
input the working value. -/
def run (step : Step) (source : Source) (field : String) (state : FieldState) :
    Except Refusal FieldState := do
  let text := step.input source field
  let state ← step.rule.check source field text state
  match step.argument, state.working with
  | none, none => return { state with working := some (.text text) }
  | _, _ => return state

end Step

/-- How the rules of a field end. -/
inductive FieldOutcome where
  /-- No rule failed; the field holds a value or is left out. -/
  | passed (kept : Option Value)
  /-- A rule failed. -/
  | failed (rule : Rule) (reason : Failure)
  /-- The rules are broken. -/
  | broken (error : RuleError)
deriving DecidableEq

namespace FieldOutcome

/-- Runs steps on a field whose value so far is `kept`. -/
def runFrom (source : Source) (field : String) (state : FieldState) (kept : Option Value) :
    List Step → FieldOutcome
  | [] => passed kept
  | step :: steps =>
    if state.skips then passed kept
    else match step.run source field state with
      | .error (.misdeclared error) => broken error
      | .error (.failure reason) => failed step.rule reason
      | .ok next =>
        runFrom source field next (if next.skips then kept else next.working.or kept) steps

/-- Runs the steps of a field. -/
def run (source : Source) (field : String) (steps : List Step) : FieldOutcome :=
  runFrom source field {} none steps

end FieldOutcome

/-- Messages by field. -/
abbrev FieldErrors := Dict String

/-- The messages in one line, by ascending field. -/
def FieldErrors.display (errors : FieldErrors) : String :=
  Text.join ", " ((errors.entries.mergeSort fun a b => a.1 ≤ b.1).map fun (field, message) =>
    field ++ ": " ++ message)

/-- The result of a validation: data or errors. -/
inductive Validated where
  | valid (data : FormData)
  | invalid (errors : FieldErrors)
deriving DecidableEq

namespace Validated

/-- The form is valid. -/
def isValid : Validated → Bool
  | valid _ => true
  | invalid _ => false

/-- The data of a valid form. -/
def data? : Validated → Option FormData
  | valid data => some data
  | invalid _ => none

/-- The errors of an invalid form. -/
def errors? : Validated → Option FieldErrors
  | valid _ => none
  | invalid errors => some errors

end Validated

/-- Rules resolved in a vocabulary, with messages in the caller's words. -/
structure Schema where
  vocabulary : Vocabulary
  fields : Dict (List Step)
  overrides : Overrides
deriving DecidableEq

namespace Schema

/-- Resolves rules in a vocabulary. -/
def compile (rules : Rules) (vocabulary : Vocabulary) : Except RuleError Schema := do
  let fields ← rules.entries.mapM fun (field, spec) =>
    (Step.ofSpec vocabulary spec).map fun steps => (field, steps)
  return ⟨vocabulary, Dict.ofList fields, ∅⟩

/-- The schema with messages in the caller's words. -/
def withOverrides (schema : Schema) (overrides : Overrides) : Schema := { schema with overrides }

/-- The message for a failure: the caller's, or the rule's own. -/
def message (schema : Schema) (field : String) (rule : Rule) (reason : Failure) : String :=
  (schema.overrides.resolve? field rule.name).getD (reason.message field)

/-- Validates fields in order, adding to the data and errors so far. -/
def validateFields (schema : Schema) (source : Source) (data : FormData) (errors : FieldErrors) :
    List (String × List Step) → Except RuleError (FormData × FieldErrors)
  | [] => .ok (data, errors)
  | (field, steps) :: fields =>
    match FieldOutcome.run source field steps with
    | .broken error => .error error
    | .failed rule reason =>
      validateFields schema source data
        (errors.insert field (schema.message field rule reason)) fields
    | .passed (some value) => validateFields schema source (data.insert field value) errors fields
    | .passed none => validateFields schema source data errors fields

/-- Validates a form. -/
def validate (schema : Schema) (source : Source) : Except RuleError Validated := do
  let (data, errors) ← validateFields schema source ∅ ∅ schema.fields.entries
  return if errors.isEmpty then .valid data else .invalid errors

end Schema

/-- Validates a url-encoded form by the rules for forms. -/
def Form.validate (f : Form) (rules : Rules) (overrides : Overrides) :
    Except RuleError Validated := do
  ((← Schema.compile rules .form).withOverrides overrides).validate f.source

/-- Validates a multipart form by the rules for multipart forms. -/
def MultipartForm.validate (f : MultipartForm) (rules : Rules) (overrides : Overrides) :
    Except RuleError Validated := do
  ((← Schema.compile rules .multipart).withOverrides overrides).validate f.source

end Formwork
