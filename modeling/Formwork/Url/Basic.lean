import Formwork.Url.Host

/-! # Web addresses

An address has a scheme, for most schemes an authority (user, host and port), a
path, and possibly a query and a fragment; the parts are kept percent-encoded.
`Url.text` writes the address.
-/

namespace Formwork

namespace Url

/-- Who is addressed: user, password, host and port; an empty user or password is
as none, and an empty domain is no host. -/
structure Authority where
  user : String
  password : String
  host : Host
  port : Option Nat
deriving DecidableEq

/-- The path of an address: opaque text, or segments behind slashes. -/
inductive Path where
  | text (value : String)
  | segments (parts : List String)
deriving DecidableEq

end Url

/-- A web address. -/
structure Url where
  scheme : String
  authority : Option Url.Authority
  path : Url.Path
  query : Option String
  fragment : Option String
deriving DecidableEq

namespace Url

/-- The authority as text. -/
def Authority.text (a : Authority) : String :=
  let password := if a.password.isEmpty then "" else ":" ++ a.password
  let user := if a.user.isEmpty && a.password.isEmpty then "" else a.user ++ password ++ "@"
  let port := match a.port with
    | some n => ":" ++ String.ofList (Decimal.digits n)
    | none => ""
  user ++ a.host.text ++ port

/-- The path as text. Without an authority a path that begins with an empty
segment is marked, so that it does not read as one. -/
def pathText (hasAuthority : Bool) : Path → String
  | .text value => value
  | .segments parts =>
    let marked := !hasAuthority && parts.head? == some "" && parts.length > 1
    (if marked then "/." else "") ++ String.join (parts.map ("/" ++ ·))

/-- The address as text. -/
def text (u : Url) : String :=
  let authority := match u.authority with
    | some a => "//" ++ a.text
    | none => ""
  let query := match u.query with
    | some q => "?" ++ q
    | none => ""
  let fragment := match u.fragment with
    | some f => "#" ++ f
    | none => ""
  u.scheme ++ ":" ++ authority ++ pathText u.authority.isSome u.path ++ query ++ fragment

/-- The text of the host; an empty domain is no host. -/
def hostText? (u : Url) : Option String :=
  match u.authority with
  | some a => if a.host = .domain "" then none else some a.host.text
  | none => none

/-- The host holds a full stop that is neither its first nor its last character. -/
def hasDottedHost (u : Url) : Bool :=
  match u.hostText? with
  | some host =>
    let cs := host.toList
    cs.contains '.' && cs.head? != some '.' && cs.getLast? != some '.'
  | none => false

end Url

end Formwork
