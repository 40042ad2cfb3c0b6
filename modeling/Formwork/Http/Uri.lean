import Formwork.Text.CharClass
import Formwork.Text.Utf8

/-! # Request targets

The target of a request: mostly a path and a query, seldom with a scheme and an
authority in front, or an authority alone. A fragment is dropped.
-/

namespace Formwork

/-- The target of a request. `origin` is the scheme and authority as written. -/
structure Uri where
  origin : String := ""
  path : String
  query : Option String := none
deriving DecidableEq

namespace Uri

/-- A character of a path. -/
def isPathChar (c : Char) : Bool :=
  let n := c.toNat
  0x21 ≤ n && c != '#' && c != '<' && c != '>' && c != '?' && c != '`'

/-- A character of a query. -/
def isQueryChar (c : Char) : Bool :=
  let n := c.toNat
  0x21 ≤ n && c != '"' && c != '#' && c != '<' && c != '>'

/-- Reads a path and a query behind an origin. -/
def pathAndQuery? (origin : String) (cs : List Char) : Option Uri :=
  let cs := cs.takeWhile (· != '#')
  let path := cs.takeWhile (· != '?')
  let query := match cs.dropWhile (· != '?') with
    | _ :: query => some query
    | [] => none
  if path.all isPathChar && (query.getD []).all isQueryChar then
    some ⟨origin, if path.isEmpty then "/" else String.ofList path, query.map String.ofList⟩
  else none

/-- A character of an authority. -/
def isAuthorityChar (c : Char) : Bool :=
  CharClass.isAsciiAlnum c || "!$%&'()*+,-.:;=@[]_~".toList.contains c

/-- The part of an authority that names the host: no percent sign, one colon at
most outside brackets, and brackets only around an address. -/
def isHostAndPort (cs : List Char) : Bool :=
  let behind := match Cut.atLast? (· == ']') cs with
    | some (_, behind) => behind
    | none => cs
  let opening := cs.count '['
  !cs.contains '%' && behind.count ':' ≤ 1 && opening == cs.count ']' && opening ≤ 1 &&
    (opening == 0 || (cs.takeWhile (· != ']')).contains '[')

/-- The text is an authority. -/
def isAuthority (cs : List Char) : Bool :=
  cs.all isAuthorityChar &&
    match Cut.atLast? (· == '@') cs with
    | some (_, host) => !host.isEmpty && isHostAndPort host
    | none => isHostAndPort cs

/-- The scheme in front of `://`, and what follows. -/
def scheme? (cs : List Char) : Option (List Char × List Char) :=
  match Cut.atMark? "://".toList cs with
  | some (scheme, rest) =>
    if scheme.all fun c => CharClass.isAsciiAlnum c || "+-.".toList.contains c then
      some (scheme, rest)
    else none
  | none => none

/-- The longest target. -/
def lengthLimit : Nat := 65534

/-- Reads a request target. -/
def parse? (s : String) : Option Uri :=
  let cs := s.toList
  if s.utf8ByteSize > lengthLimit then none
  else if cs = ['*'] then some ⟨"", "*", none⟩
  else match cs with
    | [] => none
    | '/' :: _ => pathAndQuery? "" cs
    | _ =>
      match scheme? cs with
      | some (scheme, rest) =>
        let authority := rest.takeWhile fun c => c != '/' && c != '?' && c != '#'
        if authority.isEmpty || !isAuthority authority then none
        else pathAndQuery? (String.ofList (scheme ++ "://".toList ++ authority))
          (rest.drop authority.length)
      | none => if isAuthority cs then some ⟨s, "", none⟩ else none

/-- The target as text. -/
def text (u : Uri) : String :=
  u.origin ++ u.path ++
    match u.query with
    | some query => "?" ++ query
    | none => ""

end Uri

end Formwork
