import Formwork.Http.Header

/-! # Media types

A media type is a type, a subtype and parameters, as in
`text/plain; charset=utf-8`. Names and the value of `charset` are compared and
written in lower case; blanks stand only in front of a parameter and behind a
quoted value.
-/

namespace Formwork

/-- A media type; `text` is how it is written. -/
structure MediaType where
  type : String
  subtype : String
  parameters : List (String × String)
  text : String
deriving DecidableEq

namespace MediaType

/-- A list of characters in lower case. -/
def lower (cs : List Char) : List Char := (Text.lowerAscii (String.ofList cs)).toList

/-- A parameter as read: its name and value, and how it is written with what
belongs to it up to the next one. -/
structure Parameter where
  name : String
  value : String
  text : List Char

/-- Reads what follows a quoted value: blanks up to a semicolon or the end. -/
def afterQuoted? (cs : List Char) : Option (List Char × List Char) :=
  let blanks := cs.takeWhile (· == ' ')
  match cs.dropWhile (· == ' ') with
  | [] => some (blanks, [])
  | ';' :: rest => some (blanks ++ [';'], rest)
  | _ => none

/-- Reads a value and what follows it: the value, how it is written, what
separates it from the next parameter, and the rest. A quoted value has at least
one character, which may be a quotation mark; an unquoted one may be empty only
at the end. -/
def value? : List Char → Option (List Char × List Char × List Char × List Char)
  | '"' :: first :: rest =>
    let inside := first :: rest.takeWhile (· != '"')
    match rest.dropWhile (· != '"') with
    | '"' :: after =>
      if inside.all fun c => 31 < c.toNat && c.toNat != 127 then
        (afterQuoted? after).map fun (gap, rest) => (inside, '"' :: inside ++ ['"'], gap, rest)
      else none
    | _ => none
  | cs =>
    let value := cs.takeWhile Header.isTokenChar
    match cs.dropWhile Header.isTokenChar with
    | [] => some (value, value, [], [])
    | ';' :: rest => if value.isEmpty then none else some (value, value, [';'], rest)
    | _ => none

/-- Reads parameters, at most `count` of them. -/
def parameters? : (count : Nat) → List Char → Option (List Parameter)
  | 0, _ => none
  | count + 1, cs =>
    let blanks := cs.takeWhile (· == ' ')
    let cs := cs.dropWhile (· == ' ')
    if cs.isEmpty then some []
    else
      let name := cs.takeWhile Header.isTokenChar
      match cs.dropWhile Header.isTokenChar with
      | '=' :: rest => do
        if name.isEmpty then none
        let (value, written, gap, rest) ← value? rest
        let name := lower name
        let isCharset := name == "charset".toList
        let value := if isCharset then lower value else value
        let written := if isCharset then lower written else written
        let others ← parameters? count rest
        return ⟨String.ofList name, String.ofList value, blanks ++ name ++ '=' :: written ++ gap⟩ ::
          others
      | _ => none

/-- Reads a media type. -/
def parse? (s : String) : Option MediaType := do
  let cs := s.toList
  let top := cs.takeWhile Header.isTokenChar
  let '/' :: rest := cs.dropWhile Header.isTokenChar | none
  if top.isEmpty then none
  let sub := rest.takeWhile Header.isTokenChar
  let main := lower (top ++ '/' :: sub)
  let type := String.ofList (lower top)
  let subtype := match Cut.atLast? (· == '+') sub with
    | some (c :: before, _) => String.ofList (lower (c :: before))
    | _ => String.ofList (lower sub)
  match rest.dropWhile Header.isTokenChar with
  | [] => return ⟨type, subtype, [], String.ofList main⟩
  | ';' :: rest =>
    if sub.isEmpty then none
    let parameters ← parameters? (rest.length + 1) rest
    let text := if parameters.isEmpty then main
      else main ++ ';' :: parameters.flatMap Parameter.text
    return ⟨type, subtype, parameters.map fun p => (p.name, p.value), String.ofList text⟩
  | _ => none

/-- The first value of a parameter. -/
def parameter? (m : MediaType) (name : String) : Option String :=
  (m.parameters.find? fun p => p.1 == name).map Prod.snd

end MediaType

end Formwork
