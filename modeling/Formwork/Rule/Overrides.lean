import Formwork.Dict
import Formwork.Json.Basic

/-! # Messages in the caller's words

Messages by field and by rule name. A message under `*` stands for every rule of
the field that has none of its own.
-/

namespace Formwork

/-- Messages by field and rule name. -/
structure Overrides where
  messages : Dict (Dict String)
deriving DecidableEq

namespace Overrides

instance : EmptyCollection Overrides := ⟨⟨∅⟩⟩

/-- The rule name that stands for every rule. -/
def wildcard : String := "*"

/-- Sets the message of a rule of a field. -/
def message (o : Overrides) (field rule text : String) : Overrides :=
  ⟨o.messages.insert field (((o.messages.get? field).getD ∅).insert rule text)⟩

/-- Sets the message of every rule of a field that has none of its own. -/
def fallback (o : Overrides) (field text : String) : Overrides := o.message field wildcard text

/-- The message of a rule of a field: its own, or the one for every rule. -/
def resolve? (o : Overrides) (field rule : String) : Option String :=
  (o.messages.get? field).bind fun messages => (messages.get? rule).or (messages.get? wildcard)

/-- Reads messages by field and rule name. -/
def ofJson? (j : Json) : Option Overrides := do
  let fields ← j.asObject?
  let pairs ← fields.mapM fun (field, messages) => do
    let members ← messages.asObject?
    let texts ← members.mapM fun (rule, text) => text.asString?.map (rule, ·)
    return (field, Dict.ofList texts)
  return ⟨Dict.ofList pairs⟩

end Overrides

end Formwork
