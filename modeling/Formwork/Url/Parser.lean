import Formwork.Url.Basic

/-! # Reading web addresses

Reads an absolute address. Controls and blanks at the ends and tabs and line ends
anywhere are ignored. A special scheme always has an authority and a path, and
takes a backslash for a slash; dot segments are resolved while the path is read.
-/

namespace Formwork.Url

/-- How the scheme of an address directs its reading. -/
inductive SchemeKind where
  | file
  | special (port : Nat)
  | other
deriving DecidableEq

namespace SchemeKind

/-- The kind of a scheme, with the port that goes without saying. -/
def of (scheme : String) : SchemeKind :=
  if scheme = "http" ∨ scheme = "ws" then .special 80
  else if scheme = "https" ∨ scheme = "wss" then .special 443
  else if scheme = "ftp" then .special 21
  else if scheme = "file" then .file
  else .other

/-- The scheme is one of the special ones. -/
def isSpecial : SchemeKind → Bool
  | other => false
  | _ => true

/-- The character acts as a slash. -/
def isSlash (kind : SchemeKind) (c : Char) : Bool := c == '/' || (kind.isSpecial && c == '\\')

/-- The character ends an authority. -/
def endsAuthority (kind : SchemeKind) (c : Char) : Bool := kind.isSlash c || c == '?' || c == '#'

end SchemeKind

/-- The characters escaped in a fragment. -/
def fragmentEscapes : String := " \"<>`"

/-- The characters escaped in a path. -/
def pathEscapes : String := " \"<>`#?\x7b\x7d"

/-- The characters escaped in a user name or password. -/
def userEscapes : String := " \"<>`#?\x7b\x7d/:;=@[\\]^|"

/-- The characters escaped in a query. -/
def queryEscapes (kind : SchemeKind) : String := if kind.isSpecial then " \"#<>'" else " \"#<>"

/-- Reads a scheme and the colon behind it. -/
def scheme? (cs : List Char) : Option (String × List Char) :=
  match Cut.atFirst? (· == ':') cs with
  | some (c :: rest, after) =>
    if CharClass.isAsciiLetter c &&
        rest.all (fun d => CharClass.isAsciiAlnum d || "+-.".toList.contains d)
    then some (Text.lowerAscii (String.ofList (c :: rest)), after)
    else none
  | _ => none

/-- The user name and password of what stands before the last `@`. -/
def userOf (cs : List Char) : String × String :=
  match Cut.atFirst? (· == ':') cs with
  | some (user, password) => (escape userEscapes user, escape userEscapes password)
  | none => (escape userEscapes cs, "")

/-- Reads a port behind a colon; the port that goes without saying is dropped. -/
def port? (kind : SchemeKind) (cs : List Char) : Option (Option Nat) :=
  let (digits, rest) := cs.span CharClass.isAsciiDigit
  let n := Decimal.value digits
  let ends := match rest with
    | [] => true
    | c :: _ => c == '\\'
  if !ends || n > 65535 then none
  else if digits.isEmpty || kind = .special n then some none
  else some (some n)

/-- Cuts a host from the colon and port behind it; a colon in brackets belongs to
the host. -/
def hostAndPort : (inBrackets : Bool) → List Char → List Char × Option (List Char)
  | _, [] => ([], none)
  | inBrackets, c :: rest =>
    if c == ':' && !inBrackets then ([], some rest)
    else
      let (host, port) := hostAndPort (c == '[' || (inBrackets && c != ']')) rest
      (c :: host, port)

/-- Reads an authority, the text in front of the path; `isLast` says that nothing
follows it, and only then may a lone `@` stand for it. For a scheme that is not
special a backslash ends the port, and what stands behind it goes to the path. -/
def authority? (kind : SchemeKind) (isLast : Bool) (cs : List Char) :
    Option (Authority × List Char) := do
  if cs == ['@'] && !isLast then none
  let (user, place) := (Cut.atLast? (· == '@') cs).getD ([], cs)
  let (user, password) := userOf user
  let (hostText, portText) := hostAndPort false place
  if hostText.isEmpty && (kind.isSpecial || portText.isSome || user != "" || password != "") then
    none
  let host ← if kind.isSpecial then Host.special? hostText else Host.opaque? hostText
  match portText with
  | none => return (⟨user, password, host, none⟩, [])
  | some portText =>
    let port ← port? kind portText
    return (⟨user, password, host, port⟩, portText.dropWhile CharClass.isAsciiDigit)

/-- A letter followed by a colon or a bar, which names a drive. -/
def isDriveLetter (cs : List Char) : Bool :=
  match cs with
  | [c, d] => CharClass.isAsciiLetter c && (d == ':' || d == '|')
  | _ => false

/-- The segment stands for the current directory. -/
def isDot (segment : String) : Bool := [".", "%2e"].contains (Text.lowerAscii segment)

/-- The segment stands for the parent directory. -/
def isDotDot (segment : String) : Bool :=
  ["..", ".%2e", "%2e.", "%2e%2e"].contains (Text.lowerAscii segment)

/-- The segments without the last one; a drive letter at the root stays. -/
def parent (kind : SchemeKind) (done : List String) : List String :=
  match done with
  | [only] => if kind = .file ∧ isDriveLetter only.toList then [only] else []
  | _ => done.dropLast

/-- Resolves dot segments: `done` holds the segments so far. A dot segment at the
end leaves an empty one. -/
def resolveDots (kind : SchemeKind) (done : List String) : List String → List String
  | [] => done
  | segment :: rest =>
    let close (done : List String) := if rest.isEmpty then done ++ [""] else done
    if isDotDot segment then resolveDots kind (close (parent kind done)) rest
    else if isDot segment then resolveDots kind (close done) rest
    else
      let segment := match segment.toList with
        | [c, '|'] =>
          if kind = .file ∧ done.isEmpty ∧ isDriveLetter [c, '|'] then String.ofList [c, ':']
          else segment
        | _ => segment
      resolveDots kind (done ++ [segment]) rest

/-- The segments of a path text that begins with a slash or is empty. -/
def segmentsOf (kind : SchemeKind) (cs : List Char) : List String :=
  match cs with
  | [] => if kind.isSpecial then [""] else []
  | c :: rest =>
    let rest := if kind.isSlash c then rest else c :: rest
    let parts := resolveDots kind [] ((Cut.cutAt kind.isSlash rest).map (escape pathEscapes))
    if kind = .file then
      let parts := parts.dropWhile (· == "")
      if parts.isEmpty then [""] else parts
    else parts

/-- What stands before the first character that satisfies `p`, and that character
with all behind it. -/
def before (p : Char → Bool) (cs : List Char) : List Char × List Char := cs.span fun c => !p c

/-- The query and the fragment, of what stands behind the path. -/
def queryAndFragment (kind : SchemeKind) (cs : List Char) : Option String × Option String :=
  let (front, behind) := before (· == '#') cs
  let fragment := match behind with
    | _ :: rest => some (escape fragmentEscapes rest)
    | [] => none
  let query := match front with
    | '?' :: rest => some (escape (queryEscapes kind) rest)
    | _ => none
  (query, fragment)

/-- The address with the given scheme and authority and the path, query and
fragment read from `cs`. -/
def withPath (scheme : String) (kind : SchemeKind) (authority : Option Authority)
    (cs : List Char) : Url :=
  let (path, behind) := before (fun c => c == '?' || c == '#') cs
  let (query, fragment) := queryAndFragment kind behind
  ⟨scheme, authority, .segments (segmentsOf kind path), query, fragment⟩

/-- Reads what follows two slashes. -/
def behindSlashes? (scheme : String) (kind : SchemeKind) (cs : List Char) : Option Url := do
  let (front, rest) := before kind.endsAuthority cs
  let (authority, left) ← authority? kind rest.isEmpty front
  return withPath scheme kind (some authority) (left ++ rest)

/-- The authority of a file on this machine. -/
def localAuthority : Authority := ⟨"", "", .domain "", none⟩

/-- Reads a file address behind its scheme. -/
def file? (cs : List Char) : Option Url :=
  let kind := SchemeKind.file
  match cs with
  | c :: d :: rest =>
    if kind.isSlash c && kind.isSlash d then
      let (host, path) := before kind.endsAuthority rest
      if isDriveLetter host then some (withPath "file" kind (some localAuthority) ('/' :: rest))
      else if host.isEmpty then some (withPath "file" kind (some localAuthority) path)
      else do
        let host ← Host.special? host
        let url := withPath "file" kind
          (some { localAuthority with host := if host = .domain "localhost" then .domain "" else host })
          path
        let hasDrive := match url.path with
          | .segments (first :: _) => isDriveLetter first.toList
          | _ => false
        return if hasDrive then { url with authority := some localAuthority } else url
    else some (withPath "file" kind (some localAuthority) cs)
  | _ => some (withPath "file" kind (some localAuthority) cs)

/-- Reads an absolute address. -/
def parse? (s : String) : Option Url := do
  let ignored (c : Char) : Bool := c == '\t' || c == '\n' || c == '\r'
  let cs := (Cut.trim (fun c => c.toNat ≤ 0x20) s.toList).filter (!ignored ·)
  let (scheme, rest) ← scheme? cs
  match SchemeKind.of scheme with
  | .file => file? rest
  | .special port =>
    let kind := SchemeKind.special port
    behindSlashes? scheme kind (rest.dropWhile kind.isSlash)
  | .other =>
    match rest with
    | '/' :: '/' :: behind => behindSlashes? scheme .other behind
    | '/' :: _ => return withPath scheme .other none rest
    | _ =>
      let (path, behind) := before (fun c => c == '?' || c == '#') rest
      let (query, fragment) := queryAndFragment .other behind
      return ⟨scheme, none, .text (escape "" path), query, fragment⟩

end Formwork.Url
