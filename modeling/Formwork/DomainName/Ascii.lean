import Formwork.DomainName.CharProperty
import Formwork.DomainName.Mapping
import Formwork.DomainName.Punycode
import Formwork.Text.Normal

/-! # ASCII form of a domain name

A domain name is mapped character by character, composed and cut into labels at
full stops. A label with characters beyond ASCII is written in Punycode behind
`xn--`; a label that comes so marked must decode to one that would be written so.
Labels may be empty, begin or end with hyphens, and be of any length.
-/

namespace Formwork.DomainName

/-- Which rules for labels a reader of names applies. Both kinds of reader agree
on mapping and on direction. -/
structure Policy where
  /-- Joiners stand only where the scripts call for them. -/
  checksJoiners : Bool

/-- The mapped code points, if none is refused. -/
def mapped? (xs : List Nat) : Option (List Nat) :=
  (xs.mapM fun x =>
    match Mapping.of x with
    | .stands => some [x]
    | .dropped => some []
    | .replaced ys => some ys
    | .refused => none).map List.flatten

/-- A virama lets a joiner follow. -/
def isVirama (x : Nat) : Bool := Decomposition.combiningClass x == 9

/-- Behind marks that joining ignores, the nearest character has one of the
given joining types. -/
def nearestJoins (kinds : List JoiningType) (xs : List Nat) : Bool :=
  match xs.dropWhile fun x => joiningType x = .transparent with
  | x :: _ => kinds.contains (joiningType x)
  | [] => false

/-- Every joiner of a label, which continues the reversed code points `before`,
stands after a virama or, if it keeps letters apart, between letters that would
join. -/
def joinersFit (before : List Nat) : List Nat → Bool
  | [] => true
  | x :: after =>
    let afterVirama := match before with
      | y :: _ => isVirama y
      | [] => false
    let fits :=
      if x = 0x200C then
        afterVirama || (nearestJoins [.left, .dual] before && nearestJoins [.right, .dual] after)
      else if x = 0x200D then afterVirama
      else true
    fits && joinersFit (x :: before) after

/-- A code point that a name is not made of but that stands unmapped. -/
def stands (x : Nat) : Bool := Mapping.of x = .stands

/-- A label that may stand in a name. -/
def isLabel (policy : Policy) (xs : List Nat) : Bool :=
  (match xs with
    | x :: _ => !marks.contains x
    | [] => true) &&
  xs.all stands && (!policy.checksJoiners || joinersFit [] xs)

/-- The mark in front of a label in Punycode. -/
def encodedMark : List Nat := [0x78, 0x6E, 0x2D, 0x2D]

/-- The code points that a mapped label stands for. -/
def labelOf? (policy : Policy) (label : List Nat) : Option (List Nat) :=
  match encodedMark.isPrefixOf? label with
  | some behind => do
    if behind.any (128 ≤ ·) then none
    let xs ← Punycode.decode? (behind.map Char.ofNat)
    if xs.all (· < 128) || Normal.composed xs != xs || !isLabel policy xs then none
    return xs
  | none => if isLabel policy label then some label else none

/-- The characters of a right-to-left script and its numbers make a name
bidirectional. -/
def isBidirectional (labels : List (List Nat)) : Bool :=
  labels.any (·.any fun x => direction x = .rightToLeft || direction x = .arabicNumber)

/-- The directions within a label of a bidirectional name agree: it begins with a
letter, ends, marks aside, with a letter or number of its own direction, and does
not mix directions or kinds of numbers. -/
def keepsDirection (label : List Nat) : Bool :=
  let ds := label.map direction
  let body := Cut.dropEndWhile (· == .mark) ds
  match ds with
  | [] => true
  | .leftToRight :: _ =>
    ds.all (fun d => d != .rightToLeft && d != .arabicNumber) &&
      (body.getLast? == some .leftToRight || body.getLast? == some .europeanNumber)
  | .rightToLeft :: _ =>
    ds.all (· != .leftToRight) &&
      (match body.getLast? with
        | some .rightToLeft | some .arabicNumber | some .europeanNumber => true
        | _ => false) &&
      !(ds.contains .arabicNumber && ds.contains .europeanNumber)
  | _ => false

/-- A label in ASCII. -/
def labelText (label : List Nat) : List Char :=
  if label.all (· < 128) then label.map Char.ofNat
  else encodedMark.map Char.ofNat ++ Punycode.encode label

/-- The ASCII form of a name. -/
def toAscii? (policy : Policy) (name : String) : Option String := do
  let xs ← mapped? (name.toList.map Char.toNat)
  let labels ← (Cut.cutAt (· == 0x2E) (Normal.composed xs)).mapM (labelOf? policy)
  if isBidirectional labels && !labels.all keepsDirection then none
  return String.ofList (Cut.joinWith '.' (labels.map labelText))

end Formwork.DomainName
