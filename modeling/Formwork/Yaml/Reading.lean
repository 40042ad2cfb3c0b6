import Formwork.Text.Hex
import Formwork.Yaml.Basic
import Formwork.Yaml.Node

/-! # From nodes to values

A plain scalar without a tag stands for null, a boolean, a number or, failing all
of them, a text. An integer is written with decimal digits without leading zeros,
or with digits of base 16, 8 or 2 behind `0x`, `0o`, `0b`. Integers have 64 bits;
one that takes more, but at most 128, is refused, and a longer one is no integer.
The tags of the core schema force a reading, every other tag that begins with `!`
stays with the value. A key may occur once in a mapping.
-/

namespace Formwork.Yaml

/-! ## Scalars -/

/-- Reads the ways to write null. -/
def isNullWord (s : String) : Bool := s == "null" || s == "Null" || s == "NULL" || s == "~"

/-- Reads the ways to write a boolean. -/
def boolOf? (s : String) : Option Bool :=
  if s = "true" ∨ s = "True" ∨ s = "TRUE" then some true
  else if s = "false" ∨ s = "False" ∨ s = "FALSE" then some false
  else none

/-- More than one digit, the first a zero. -/
def hasLeadingZero : List Char → Bool
  | '0' :: c :: rest => (c :: rest).all CharClass.isAsciiDigit
  | _ => false

/-- Reads an integer without a sign. -/
def magnitude? : List Char → Option Nat
  | '0' :: 'x' :: digits => Hex.number? 16 digits
  | '0' :: 'o' :: digits => Hex.number? 8 digits
  | '0' :: 'b' :: digits => Hex.number? 2 digits
  | cs => if hasLeadingZero cs then none else Decimal.natOf? cs

/-- Without a sign in front. -/
def unsigned : List Char → List Char
  | '+' :: cs => cs
  | '-' :: cs => cs
  | cs => cs

/-- Reads an integer. -/
def integer? : List Char → Option Int
  | '-' :: cs => (magnitude? cs).map fun n => -Int.ofNat n
  | cs => (magnitude? (match cs with
    | '+' :: cs => cs
    | cs => cs)).map Int.ofNat

/-- What comes of an attempt to read an integer. -/
inductive IntegerReading where
  | integer (n : Int)
  | tooWide
  | other

/-- Tells integers of 64 bits from those of 128 bits and everything else. -/
def integerReading (cs : List Char) : IntegerReading :=
  match integer? cs with
  | some n =>
    if Word64.minSigned ≤ n ∧ n ≤ Word64.maxUnsigned then .integer n
    else if -(Nat.pow 2 127 : Int) ≤ n ∧ n < (Nat.pow 2 128 : Int) then .tooWide
    else .other
  | none => .other

/-- Reads the exponent of a floating-point number. -/
def exponent? : List Char → Option Int
  | [] => some 0
  | c :: cs => if c = 'e' ∨ c = 'E' then Decimal.intOf? cs else none

/-- Reads a finite floating-point number without a plus sign in front: digits with
a point perhaps, and an exponent perhaps. -/
def finite? (cs : List Char) : Option Double :=
  let (negative, cs) := match cs with
    | '-' :: cs => (true, cs)
    | cs => (false, cs)
  let (whole, cs) := cs.span CharClass.isAsciiDigit
  let (fraction, cs) := match cs with
    | '.' :: cs => cs.span CharClass.isAsciiDigit
    | cs => ([], cs)
  if whole.isEmpty && fraction.isEmpty then none
  else do
    let e ← exponent? cs
    Double.ofDecimal? negative (Decimal.value (whole ++ fraction)) (e - fraction.length)

/-- Reads a floating-point number. -/
def floatOf? (s : String) : Option Double :=
  let positive := match s.toList with
    | '+' :: cs => cs
    | cs => cs
  let word := String.ofList positive
  if s.toList.head? = some '+' && (positive.head? = some '+' || positive.head? = some '-') then none
  else if word = ".inf" ∨ word = ".Inf" ∨ word = ".INF" then some ⟨0x7FF0000000000000⟩
  else if s = "-.inf" ∨ s = "-.Inf" ∨ s = "-.INF" then some ⟨0xFFF0000000000000⟩
  else if s = ".nan" ∨ s = ".NaN" ∨ s = ".NAN" then some ⟨0x7FF8000000000000⟩
  else finite? positive

/-- The value of a plain scalar without a tag. -/
def ofPlain? (s : String) : Option Yaml :=
  if s.isEmpty || isNullWord s then some .null
  else
    match boolOf? s with
    | some b => some (.bool b)
    | none =>
      match integerReading s.toList with
      | .integer n => some (.int n)
      | .tooWide => none
      | .other =>
        let number := if hasLeadingZero (unsigned s.toList) then none else floatOf? s
        some ((number.map .float).getD (.text s))

/-- The tag of the core schema with a given name. -/
def coreTag (name : String) : String := "tag:yaml.org,2002:" ++ name

/-- The value of a scalar under a tag that does not stay with it. -/
def ofScalar? (tag : Option String) (s : Scalar) : Option Yaml :=
  match tag with
  | none => if s.isPlain then ofPlain? s.content else some (.text s.content)
  | some tag =>
    if tag = coreTag "bool" then (boolOf? s.content).map .bool
    else if tag = coreTag "int" then
      match integerReading s.content.toList with
      | .integer n => some (.int n)
      | _ => none
    else if tag = coreTag "float" then (floatOf? s.content).map .float
    else if tag = coreTag "null" then (if isNullWord s.content then some .null else none)
    else some (.text s.content)

/-! ## Nodes -/

/-- The name of a tag that stays with its value: what follows one or two exclamation
marks in front, or a mark alone. -/
def ownTag? (tag : String) : Option String :=
  match tag.toList with
  | ['!'] => some "!"
  | ['!', '!'] => some "!"
  | '!' :: '!' :: rest => some (String.ofList rest)
  | '!' :: rest => some (String.ofList rest)
  | _ => none

/-- Puts the tag of a node around its value, read with or without the tag. -/
def withTag (tag : Option String) (read : Option String → Option Yaml) : Option Yaml :=
  match tag.bind ownTag? with
  | some name => (read none).map (.tagged name)
  | none => read tag

/-- A mapping with the given pairs, if no key occurs twice. -/
def mapOf? (pairs : List (Yaml × Yaml)) : Option Yaml :=
  let distinct := pairs.foldl
    (fun (seen : Option (List Yaml)) pair => seen.bind fun keys =>
      if keys.any (same pair.1) then none else some (pair.1 :: keys)) (some [])
  distinct.map fun _ => .map pairs

mutual

/-- The value of a node. -/
def ofNode? : Node → Option Yaml
  | .alias _ => none
  | .scalar label s => withTag label.tag fun tag => ofScalar? tag s
  | .sequence label items =>
    let items := ofItems? items
    withTag label.tag fun _ => items.map .list
  | .mapping label pairs =>
    let pairs := ofPairs? pairs
    withTag label.tag fun _ => pairs.bind mapOf?

/-- The values of items. -/
def ofItems? : List Node → Option (List Yaml)
  | [] => some []
  | item :: items => do return (← ofNode? item) :: (← ofItems? items)

/-- The values of pairs. -/
def ofPairs? : List (Node × Node) → Option (List (Yaml × Yaml))
  | [] => some []
  | (key, value) :: pairs => do
    return (← ofNode? key, ← ofNode? value) :: (← ofPairs? pairs)

end

/-- Reads the value of a text that holds one document. -/
def parse? (s : String) : Option Yaml := (Node.ofText? s).bind ofNode?

end Formwork.Yaml
