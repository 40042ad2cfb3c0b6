import Formwork.Form.Basic
import Formwork.Net.Email
import Formwork.Rule.Token

/-! # Checks

What a rule does with the text that it is given and with the state of its field:
it accepts and passes a state on, it fails for a reason that the user can mend,
or it finds that it was declared for a value that it cannot handle. A check that
does not accept changes nothing.
-/

namespace Formwork

/-- Why the user's input does not satisfy a rule. -/
inductive Failure where
  | required
  | notInteger
  | shorterThan (bound : Int)
  | longerThan (bound : Int)
  | lessThan (bound : Int)
  | greaterThan (bound : Int)
  | notEmail
  | notUrl
  | notDate
  | notValid
  | notAlphanumeric
  | differsFrom (companion : String)
  | fileRequired
  | contentType
  | tooLarge
deriving DecidableEq

/-- The failure of a field in words. -/
def Failure.message (field : String) : Failure → String
  | required => field ++ " is required"
  | notInteger => field ++ " value must be an integer"
  | shorterThan bound =>
    field ++ " must have at least " ++ Decimal.intText bound ++ " characters"
  | longerThan bound =>
    field ++ " cannot be longer than " ++ Decimal.intText bound ++ " characters"
  | lessThan bound => field ++ " cannot be less than " ++ Decimal.intText bound
  | greaterThan bound => field ++ " cannot be greater than " ++ Decimal.intText bound
  | notEmail => field ++ " is not a valid email address"
  | notUrl => field ++ " is not a valid url"
  | notDate => field ++ " is not a valid date"
  | notValid => field ++ " is not valid"
  | notAlphanumeric => field ++ " is not alphanumeric"
  | differsFrom companion => field ++ " does not match " ++ companion
  | fileRequired => field ++ " file is required"
  | contentType => "File " ++ field ++ " does not have a valid content type"
  | tooLarge => field ++ " is too large"

/-- The state of a field while its rules run: the working value, and whether the
remaining rules are skipped. -/
structure FieldState where
  working : Option Value := none
  skips : Bool := false
deriving DecidableEq

/-- Why a check does not accept. -/
inductive Refusal where
  | failure (reason : Failure)
  | misdeclared (error : RuleError)
deriving DecidableEq

namespace Rule

/-- The spellings of truth values. -/
def truth? (s : String) : Option Bool :=
  if ["1", "t", "T", "true", "TRUE", "True"].contains s then some Bool.true
  else if ["0", "f", "F", "false", "FALSE", "False"].contains s then some Bool.false
  else none

/-- Letters that are not numbers, decimal digits and blanks. -/
def isAlphanumeric (c : Char) : Bool :=
  (CharClass.isAlphabetic c && !CharClass.isNumber c) || CharClass.isAsciiDigit c || c == ' '

/-- The field that repeats another one. -/
def companionOf (field : String) : String := field ++ "_confirm"

/-- The number that a rule's text gives as a bound. -/
def bound (rule : Rule) (field text : String) : Except Refusal Int :=
  match Decimal.int64? text with
  | some n => .ok n
  | none => .error (.misdeclared (.invalidArgument rule field text))

/-- The refusal of a working value that a rule cannot handle. -/
def cannotHandle {α : Type} (rule : Rule) (field : String) (found : Option Value) :
    Except Refusal α :=
  .error (.misdeclared (.unsupported rule field (found.map Value.kind)))

/-- Accepts if the condition holds and fails for a reason if not. -/
def accept (condition : Bool) (reason : Failure) (state : FieldState) :
    Except Refusal FieldState :=
  if condition then .ok state else .error (.failure reason)

/-- Runs a rule on a field. The text is the rule's argument or, for a rule
without one, the field's input. -/
def check (rule : Rule) (source : Source) (field text : String) (state : FieldState) :
    Except Refusal FieldState :=
  match rule with
  | .required => accept (text != "") Failure.required { state with working := some (.text text) }
  | .int =>
    match Decimal.int64? text with
    | some n => .ok { state with working := some (.int n) }
    | none => .error (.failure .notInteger)
  | .string => .ok { state with working := some (.text text) }
  | .min => do
    let bound ← Rule.min.bound field text
    match state.working with
    | some (.text s) => accept (bound ≤ s.length) (.shorterThan bound) state
    | some (.int n) => accept (bound ≤ n) (.lessThan bound) state
    | other => cannotHandle .min field other
  | .max => do
    let bound ← Rule.max.bound field text
    match state.working with
    | some (.text s) => accept (s.length ≤ bound) (.longerThan bound) state
    | some (.int n) => accept (n ≤ bound) (.greaterThan bound) state
    | other => cannotHandle .max field other
  | .email => accept (Email.isAddress text) .notEmail state
  | .optional =>
    .ok { working := some (.text text), skips := state.skips || text == "" }
  | .url =>
    match (Url.parse? text).filter Url.hasDottedHost with
    | some address => .ok { state with working := some (.url address) }
    | none => .error (.failure .notUrl)
  | .date =>
    match state.working with
    | some (.text s) =>
      (match Calendar.read? (Calendar.templateItems text) s with
        | some moment => .ok { state with working := some (.date moment) }
        | none => .error (.failure .notDate))
    | other => cannotHandle .date field other
  | .true =>
    match state.working with
    | some (.bool b) => accept b .notValid state
    | other => cannotHandle .true field other
  | .boolean =>
    match truth? text with
    | some b => .ok { state with working := some (.bool b) }
    | none => .error (.failure .notValid)
  | .confirm =>
    accept (text == Text.trim (source.get (companionOf field)))
      (.differsFrom (companionOf field)) state
  | .alphaNum => accept (text.toList.all isAlphanumeric) .notAlphanumeric state
  | .optionalFile =>
    match source.file? field with
    | some file => .ok { state with working := some (.file file) }
    | none => .ok { state with skips := Bool.true }
  | .requiredFile =>
    match source.file? field with
    | some file => .ok { state with working := some (.file file) }
    | none => .error (.failure .fileRequired)
  | .contentType =>
    match state.working with
    | some (.file file) =>
      accept ((Text.split ',' text).any fun allowed => Text.trim allowed == file.mediaType)
        .contentType state
    | other => cannotHandle .contentType field other
  | .maxBytes => do
    let bound ← Rule.maxBytes.bound field text
    match state.working with
    | some (.file file) => accept (file.size ≤ bound) .tooLarge state
    | other => cannotHandle .maxBytes field other

end Rule

end Formwork
