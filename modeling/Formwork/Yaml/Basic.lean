import Formwork.Text.FloatText

/-! # YAML values

The values that documents stand for. The keys of a mapping are values of any kind,
and a value may carry a tag of the caller's own, which most look-ups ignore.
-/

namespace Formwork

/-- A YAML value. -/
inductive Yaml where
  | null
  | bool (value : Bool)
  | int (value : Int)
  | float (value : Double)
  | text (value : String)
  | list (items : List Yaml)
  | map (pairs : List (Yaml × Yaml))
  | tagged (tag : String) (value : Yaml)
deriving Inhabited

namespace Yaml

/-- The numbers are the same: equal, or both not numbers. -/
def sameFloat (a b : Double) : Bool := a.numEq b || (a.toFloat.isNaN && b.toFloat.isNaN)

mutual

/-- The values are the same; the order of pairs does not count. -/
def same : Yaml → Yaml → Bool
  | .null, .null => true
  | .bool a, .bool b => a == b
  | .int a, .int b => a == b
  | .float a, .float b => sameFloat a b
  | .text a, .text b => a == b
  | .list a, .list b => sameItems a b
  | .map a, .map b => a.length == b.length && pairsWithin a b
  | .tagged s a, .tagged t b => s == t && same a b
  | _, _ => false

/-- The items are the same in order. -/
def sameItems : List Yaml → List Yaml → Bool
  | [], [] => true
  | a :: as, b :: bs => same a b && sameItems as bs
  | _, _ => false

/-- Every pair of the first list is in the second. -/
def pairsWithin : List (Yaml × Yaml) → List (Yaml × Yaml) → Bool
  | [], _ => true
  | (key, value) :: pairs, others =>
    (others.any fun other => same key other.1 && same value other.2) && pairsWithin pairs others

end

/-- Without the tags in front. -/
def untagged : Yaml → Yaml
  | .tagged _ value => untagged value
  | other => other

/-- The pairs of a mapping. -/
def asMap? (y : Yaml) : Option (List (Yaml × Yaml)) :=
  match y.untagged with
  | .map pairs => some pairs
  | _ => none

/-- The characters of a text. -/
def asText? (y : Yaml) : Option String :=
  match y.untagged with
  | .text s => some s
  | _ => none

/-- The characters of a text without a tag. -/
def bareText? : Yaml → Option String
  | .text s => some s
  | _ => none

/-- The truth value of a boolean. -/
def asBool? (y : Yaml) : Option Bool :=
  match y.untagged with
  | .bool b => some b
  | _ => none

/-- The number of an integer. -/
def asInt? (y : Yaml) : Option Int :=
  match y.untagged with
  | .int n => some n
  | _ => none

/-- The number of an integer that is a signed 64-bit integer. -/
def asInt64? (y : Yaml) : Option Int := y.asInt?.filter fun n => decide (Word64.IsSigned n)

/-- The value under the key that is the text `name`, untagged. -/
def valueUnder? (name : String) : List (Yaml × Yaml) → Option Yaml
  | [] => none
  | (.text key, value) :: pairs => if key = name then some value else valueUnder? name pairs
  | _ :: pairs => valueUnder? name pairs

/-- The value of a mapping under a name. -/
def member? (y : Yaml) (name : String) : Option Yaml := y.asMap?.bind (valueUnder? name)

/-- The value that names lead to from mapping to mapping. -/
def memberAlong? : Yaml → List String → Option Yaml
  | y, [] => some y
  | y, name :: names => (y.member? name).bind fun inner => memberAlong? inner names

end Yaml

end Formwork
