import Formwork.Form.Value

/-! # Rules of fields

The rules that a field may have, the vocabularies that offer them, and what goes
wrong with a declaration of rules or with a value that a rule sees.
-/

namespace Formwork

/-- A rule that a field may have. -/
inductive Rule where
  | required | int | string | min | max | email | optional | url | date | true | boolean
  | confirm | alphaNum | optionalFile | requiredFile | contentType | maxBytes
deriving DecidableEq

namespace Rule

/-- The name of a rule in declarations. -/
def name : Rule → String
  | required => "required"
  | int => "int"
  | string => "string"
  | min => "min"
  | max => "max"
  | email => "email"
  | optional => "optional"
  | url => "url"
  | date => "date"
  | true => "true"
  | boolean => "boolean"
  | confirm => "confirm"
  | alphaNum => "alpha_num"
  | optionalFile => "optionalFile"
  | requiredFile => "requiredFile"
  | contentType => "contentType"
  | maxBytes => "maxBytes"

/-- The rules that every form offers. -/
def ofForms : List Rule :=
  [required, int, string, min, max, email, optional, url, date, true, boolean, confirm, alphaNum]

/-- The rules that need uploaded files. -/
def ofFiles : List Rule := [optionalFile, requiredFile, contentType, maxBytes]

end Rule

/-- A mistake in the declaration of rules: it aborts a validation. -/
inductive RuleError where
  /-- A rule text that cannot be cut into a name and an argument. -/
  | malformed (text : String)
  /-- A rule name outside the vocabulary. -/
  | unknown (name : String)
  /-- An argument that has to be a number and is none. -/
  | invalidArgument (rule : Rule) (field argument : String)
  /-- A rule on a working value that it cannot handle, or on none. -/
  | unsupported (rule : Rule) (field : String) (found : Option Value.Kind)
deriving DecidableEq

/-- The mistake in words. -/
def RuleError.message : RuleError → String
  | malformed text => "rule `" ++ text ++ "` is not valid"
  | unknown name => "rule `" ++ name ++ "` not found"
  | invalidArgument rule field argument =>
    "`" ++ argument ++ "` is not a valid argument for `" ++ rule.name ++ "` on field `" ++ field ++
      "`"
  | unsupported rule field found =>
    "rule `" ++ rule.name ++ "` cannot be applied to field `" ++ field ++ "` holding " ++
      match found with
      | some kind => kind.words
      | none => "no value"

/-- The set of rules that a form may use. -/
inductive Vocabulary where
  | form
  | multipart
deriving DecidableEq

namespace Vocabulary

/-- The rules of a vocabulary: multipart forms add the rules for files. -/
def rules : Vocabulary → List Rule
  | form => Rule.ofForms
  | multipart => Rule.ofForms ++ Rule.ofFiles

/-- The rule with a name. -/
def resolve? (vocabulary : Vocabulary) (name : String) : Option Rule :=
  vocabulary.rules.find? fun rule => rule.name == name

/-- The rule with a name, or the mistake that there is none. -/
def resolve (vocabulary : Vocabulary) (name : String) : Except RuleError Rule :=
  match vocabulary.resolve? name with
  | some rule => .ok rule
  | none => .error (.unknown name)

end Vocabulary

end Formwork
