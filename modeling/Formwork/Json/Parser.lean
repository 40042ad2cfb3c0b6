import Formwork.Json.Basic
import Formwork.Text.Hex

/-! # Reading JSON

`parse?` reads a whole text as one document. Containers may nest up to a limit.
A number without fraction and exponent is a whole number if it fits in 64 bits,
signed when it is negative and unsigned otherwise; every other number is a
floating-point number, and one beyond the greatest double is refused.
-/

namespace Formwork.Json.Parser

/-- Blanks between tokens. -/
def isBlank (c : Char) : Bool := c == ' ' || c == '\n' || c == '\t' || c == '\r'

/-- Without blanks in front. -/
def skip (cs : List Char) : List Char := cs.dropWhile isBlank

/-- A number as written: `significand · 10 ^ exponent`, with its sign. -/
structure Numeral where
  negative : Bool
  significand : Nat
  exponent : Int

/-- The power of ten as a double. -/
def powerOfTen (n : Nat) : Float := Float.ofScientific 1 false n

/-- Scales a number by a power of ten in steps of at most 308 places. -/
def scale : Nat → Float → Int → Option Float
  | 0, f, _ => some f
  | fuel + 1, f, e =>
    if e.natAbs ≤ 308 then
      if e ≥ 0 then
        let g := f * powerOfTen e.natAbs
        if g.isInf then none else some g
      else some (f / powerOfTen e.natAbs)
    else if f == 0.0 then some f
    else if e ≥ 0 then none
    else scale fuel (f / powerOfTen 308) (e + 308)

/-- The double that a numeral stands for, if it is finite. The significand is
rounded first and then scaled. -/
def Numeral.toDouble? (n : Numeral) : Option Double :=
  (scale (n.exponent.natAbs / 308 + 2) (Float.ofNat n.significand) n.exponent).map fun f =>
    .ofFloat (if n.negative then -f else f)

/-- Adds digits to a significand while it fits in 64 bits. Gives the significand,
how many digits were added, and the digits that did not fit. -/
def addDigits (significand added : Nat) : List Char → Nat × Nat × List Char
  | [] => (significand, added, [])
  | c :: cs =>
    let next := significand * 10 + Decimal.digitValue c
    if next ≤ Word64.maxUnsigned then addDigits next (added + 1) cs
    else (significand, added, c :: cs)

/-- The number of a whole numeral that fits in 64 bits; a negative zero is not
whole. -/
def wholeNumber? (negative : Bool) (significand : Nat) : Option Int :=
  if negative then
    if significand ≠ 0 ∧ Word64.IsSigned (-(significand : Int)) then some (-(significand : Int))
    else none
  else some significand

/-- The exponent part of a numeral: its value, and what follows it. A numeral
without one has exponent zero. -/
def exponentPart? : List Char → Option (Option Int × List Char)
  | c :: cs =>
    if c = 'e' ∨ c = 'E' then
      let (negative, rest) := match cs with
        | '-' :: rest => (true, rest)
        | '+' :: rest => (false, rest)
        | rest => (false, rest)
      let (digits, after) := rest.span CharClass.isAsciiDigit
      (Decimal.natOf? digits).map fun n => (some (if negative then -(n : Int) else n), after)
    else some (none, c :: cs)
  | [] => some (none, [])

/-- The fraction part of a numeral: its digits, and what follows them. -/
def fractionPart? : List Char → Option (Option (List Char) × List Char)
  | '.' :: cs =>
    let (digits, after) := cs.span CharClass.isAsciiDigit
    if digits.isEmpty then none else some (some digits, after)
  | cs => some (none, cs)

/-- Reads the digits of a number whose sign has been read. -/
def unsignedNumber? (negative : Bool) (cs : List Char) : Option (Json × List Char) := do
  let (whole, rest) := cs.span CharClass.isAsciiDigit
  if whole.isEmpty ∨ (whole.head? = some '0' ∧ whole.length > 1) then none
  let (fraction, rest) ← fractionPart? rest
  let (exponent, rest) ← exponentPart? rest
  let (significand, _, dropped) := addDigits 0 0 whole
  match fraction, exponent, dropped with
  | none, none, [] =>
    match wholeNumber? negative significand with
    | some n => return (.int n, rest)
    | none => return (.float (← Numeral.toDouble? ⟨negative, significand, 0⟩), rest)
  | _, _, _ =>
    let (significand, places, _) := addDigits significand 0 (fraction.getD [])
    let shift : Int := dropped.length - places
    return (.float (← Numeral.toDouble? ⟨negative, significand, shift + exponent.getD 0⟩), rest)

/-- Reads a number. -/
def number? : List Char → Option (Json × List Char)
  | '-' :: cs => unsignedNumber? true cs
  | cs => unsignedNumber? false cs

/-- The value of four hexadecimal digits. -/
def hexUnit? (a b c d : Char) : Option Nat := do
  let high := (← Hex.value? a) * 16 + (← Hex.value? b)
  let low := (← Hex.value? c) * 16 + (← Hex.value? d)
  return high * 256 + low

/-- The character that a backslash and one letter stand for. -/
def escaped? (c : Char) : Option Char :=
  if c = '"' ∨ c = '\\' ∨ c = '/' then some c
  else if c = 'b' then some '\x08'
  else if c = 'f' then some '\x0c'
  else if c = 'n' then some '\n'
  else if c = 'r' then some '\r'
  else if c = 't' then some '\t'
  else none

/-- Reads the rest of a string up to its closing quotation mark. A code unit of a
surrogate pair counts only with its partner. -/
def stringTail? : List Char → Option (List Char × List Char)
  | [] => none
  | '"' :: rest => some ([], rest)
  | '\\' :: 'u' :: a :: b :: c :: d :: '\\' :: 'u' :: e :: f :: g :: h :: rest => do
    let unit ← hexUnit? a b c d
    if 0xDC00 ≤ unit ∧ unit ≤ 0xDFFF then none
    else if 0xD800 ≤ unit ∧ unit ≤ 0xDBFF then
      let low ← hexUnit? e f g h
      if 0xDC00 ≤ low ∧ low ≤ 0xDFFF then
        let (cs, after) ← stringTail? rest
        return (Char.ofNat (0x10000 + (unit - 0xD800) * 0x400 + (low - 0xDC00)) :: cs, after)
      else none
    else
      let (cs, after) ← stringTail? ('\\' :: 'u' :: e :: f :: g :: h :: rest)
      return (Char.ofNat unit :: cs, after)
  | '\\' :: 'u' :: a :: b :: c :: d :: rest => do
    let unit ← hexUnit? a b c d
    if 0xD800 ≤ unit ∧ unit ≤ 0xDFFF then none
    else
      let (cs, after) ← stringTail? rest
      return (Char.ofNat unit :: cs, after)
  | '\\' :: c :: rest => do
    let plain ← escaped? c
    let (cs, after) ← stringTail? rest
    return (plain :: cs, after)
  | c :: rest =>
    if c = '\\' ∨ c.toNat < 0x20 then none
    else (stringTail? rest).map fun (cs, after) => (c :: cs, after)

/-- Reads a string. -/
def string? : List Char → Option (String × List Char)
  | '"' :: rest => (stringTail? rest).map fun (cs, after) => (String.ofList cs, after)
  | _ => none

/-- Reads what remains of a container: one entry, then more after commas, up to
`close`. An entry that consumes nothing is refused. -/
def entries? {α : Type} (readOne : List Char → Option (α × List Char)) (close : Char)
    (cs : List Char) : Option (List α × List Char) :=
  match readOne cs with
  | none => none
  | some (first, rest) =>
    match skip rest with
    | [] => none
    | c :: after =>
      if c = close then some ([first], after)
      else if c = ',' then
        if after.length < cs.length then
          (entries? readOne close after).map fun (others, rest) => (first :: others, rest)
        else none
      else none
termination_by cs.length

/-- Reads a member of an object. -/
def member? (value? : List Char → Option (Json × List Char)) (cs : List Char) :
    Option ((String × Json) × List Char) := do
  let (name, rest) ← string? (skip cs)
  match skip rest with
  | ':' :: rest =>
    let (value, rest) ← value? rest
    return ((name, value), rest)
  | _ => none

/-- Reads a document that nests at most `depth` containers, after any blanks. -/
def value? : Nat → List Char → Option (Json × List Char)
  | depth, cs =>
    match skip cs with
    | 'n' :: 'u' :: 'l' :: 'l' :: rest => some (.null, rest)
    | 't' :: 'r' :: 'u' :: 'e' :: rest => some (.bool true, rest)
    | 'f' :: 'a' :: 'l' :: 's' :: 'e' :: rest => some (.bool false, rest)
    | '"' :: rest => (stringTail? rest).map fun (cs, after) => (.string (String.ofList cs), after)
    | '[' :: rest =>
      match depth with
      | 0 => none
      | depth + 1 =>
        match skip rest with
        | ']' :: after => some (.array [], after)
        | inside => (entries? (value? depth) ']' inside).map fun (items, after) =>
          (.array items, after)
    | '\x7b' :: rest =>
      match depth with
      | 0 => none
      | depth + 1 =>
        match skip rest with
        | '\x7d' :: after => some (.object [], after)
        | inside => (entries? (member? (value? depth)) '\x7d' inside).map fun (members, after) =>
          (.object members, after)
    | rest => number? rest

end Parser

/-- Containers may nest this deep in a text. -/
def nestingLimit : Nat := 127

/-- Reads a text that holds one document and blanks. -/
def parseWithin? (depth : Nat) (s : String) : Option Json :=
  match Parser.value? depth s.toList with
  | some (j, rest) => if (Parser.skip rest).isEmpty then some j else none
  | none => none

/-- Reads a text that holds one document, under the usual limit on nesting. -/
def parse? (s : String) : Option Json := parseWithin? nestingLimit s

end Formwork.Json
