import Formwork.Text.FloatText

/-! # JSON documents

A document keeps the members of its objects in the order in which they were
written, repeated names included. `canonical` gives the value of a document: in
each object the names are in ascending order and the last member of a name
counts. Whole numbers and floating-point numbers are different values.
-/

namespace Formwork

/-- A JSON document. -/
inductive Json where
  | null
  | bool (value : Bool)
  | int (value : Int)
  | float (value : Double)
  | string (value : String)
  | array (items : List Json)
  | object (members : List (String × Json))
deriving Inhabited

namespace Json

mutual

/-- Equality of documents, floating-point numbers compared as numbers. -/
def equal : Json → Json → Bool
  | .null, .null => true
  | .bool a, .bool b => a == b
  | .int a, .int b => a == b
  | .float a, .float b => a.numEq b
  | .string a, .string b => a == b
  | .array a, .array b => equalItems a b
  | .object a, .object b => equalMembers a b
  | _, _ => false

/-- Equality of the items of two arrays. -/
def equalItems : List Json → List Json → Bool
  | [], [] => true
  | a :: as, b :: bs => equal a b && equalItems as bs
  | _, _ => false

/-- Equality of the members of two objects, in order. -/
def equalMembers : List (String × Json) → List (String × Json) → Bool
  | [], [] => true
  | (k, a) :: as, (l, b) :: bs => k == l && equal a b && equalMembers as bs
  | _, _ => false

end

instance : BEq Json := ⟨equal⟩

/-- Members in ascending order of their names, each name once. -/
abbrev Members := List (String × Json)

namespace Members

/-- Binds `name` to `value`, keeping the order. -/
def insert (name : String) (value : Json) : Members → Members
  | [] => [(name, value)]
  | (other, held) :: rest =>
    if name < other then (name, value) :: (other, held) :: rest
    else if name = other then (name, value) :: rest
    else (other, held) :: insert name value rest

/-- Without a name. -/
def erase (name : String) (members : Members) : Members :=
  members.filter fun member => member.1 != name

/-- The members in order, the last of each name. -/
def ofList (members : List (String × Json)) : Members :=
  members.foldl (fun sorted member => insert member.1 member.2 sorted) []

end Members

mutual

/-- The value of a document: in each object the names ascend and the last member
of a name counts. -/
def canonical : Json → Json
  | .array items => .array (canonicalItems items)
  | .object members => .object (Members.ofList (canonicalMembers members))
  | other => other

/-- The values of the items of an array. -/
def canonicalItems : List Json → List Json
  | [] => []
  | item :: items => canonical item :: canonicalItems items

/-- The values of the members of an object, in order. -/
def canonicalMembers : List (String × Json) → List (String × Json)
  | [] => []
  | (name, value) :: members => (name, canonical value) :: canonicalMembers members

end

/-- The text of a string document. -/
def asString? : Json → Option String
  | .string s => some s
  | _ => none

/-- The number of a whole-number document. -/
def asInt? : Json → Option Int
  | .int n => some n
  | _ => none

/-- The number of a document that is a signed 64-bit integer. -/
def asInt64? (j : Json) : Option Int := j.asInt?.filter fun n => decide (Word64.IsSigned n)

/-- The truth value of a document. -/
def asBool? : Json → Option Bool
  | .bool b => some b
  | _ => none

/-- The items of an array document. -/
def asArray? : Json → Option (List Json)
  | .array items => some items
  | _ => none

/-- The members of an object document. -/
def asObject? : Json → Option (List (String × Json))
  | .object members => some members
  | _ => none

/-- The member of an object document under a name. -/
def member? (j : Json) (name : String) : Option Json :=
  j.asObject?.bind (List.lookup name)

/-- A text, or `null`. -/
def ofText? : Option String → Json
  | some s => .string s
  | none => .null

end Json

end Formwork
