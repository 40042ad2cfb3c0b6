import Formwork.Rule.Overrides
import Formwork.Rule.Token
import Formwork.Yaml.Reading

/-! # Rules and messages written in YAML

Both are mappings by field. Field names, rule names and messages are taken as
written, whatever they would stand for as values; the rules of a field are a text
or a list of texts by value. The last of several pairs with one key counts.
-/

namespace Formwork

/-- Reads the rules of a field: a text or a list of texts. -/
def RuleSpec.ofYaml? : Yaml → Option RuleSpec
  | .text text => some (.piped text)
  | .list items => (items.mapM Yaml.bareText?).map .list
  | _ => none

/-- Reads a mapping whose keys are taken as written. -/
def Yaml.Node.dict? {α : Type} (value? : Yaml.Node → Option α) (n : Yaml.Node) :
    Option (Dict α) := do
    let pairs ← (← n.pairs?).mapM fun pair => do
      return (← pair.1.content?, ← value? pair.2)
    return Dict.ofList pairs

/-- Reads rules by field. -/
def Rules.parseYaml? (s : String) : Option Rules := do
  (← Yaml.Node.ofText? s).dict? fun n => (Yaml.ofNode? n).bind RuleSpec.ofYaml?

/-- Reads messages by field and rule name. -/
def Overrides.parseYaml? (s : String) : Option Overrides := do
  let messages ← (← Yaml.Node.ofText? s).dict? (·.dict? Yaml.Node.content?)
  return ⟨messages⟩

end Formwork
