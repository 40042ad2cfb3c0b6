import Formwork.Codec.Base64Url
import Formwork.Digest.Hmac
import Formwork.Http.Header
import Formwork.Json.Parser
import Formwork.Json.Printer
import Formwork.Session.Basic

/-! # The cookie store

A store signs sessions with a key. A cookie value is a payload and a signature
with a full stop between them, both in Base64: the payload is a document with the
time of signing and the values, the signature is a keyed digest of the cookie's
name and the payload, so that a value signed for one name is refused under
another.
-/

namespace Formwork

/-- Signs sessions and reads signed ones. -/
structure CookieStore where
  key : Bytes
  defaults : CookieOptions := {}

/-- Why a session cannot be sent. -/
inductive SaveFault where
  /-- The cookie text cannot be a header. -/
  | invalidHeader
  /-- The cookie would expire after the end of the calendar. -/
  | beyondCalendar
deriving DecidableEq

namespace CookieStore

/-- The document that is signed: the time of signing, and values. -/
def payload (time : Int) (values : Json.Members) : Json :=
  .object [("t", .int time), ("v", .object values)]

/-- The only member of a name. -/
def onlyMember? (members : List (String × Json)) (name : String) : Option Json :=
  match members.filter fun member => member.1 == name with
  | [member] => some member.2
  | _ => none

/-- Reads the time and the values of a payload, given by name or in order. -/
def ofPayload? (j : Json) : Option (Int × Json.Members) := do
  let (time, values) ← match j with
    | .object members =>
      (onlyMember? members "t").bind fun t => (onlyMember? members "v").map (t, ·)
    | .array [t, v] => some (t, v)
    | _ => none
  let time ← time.asInt64?
  let members ← values.canonical.asObject?
  return (time, members)

/-- The octets that are signed for a cookie. -/
def signedOctets (name payload : String) : Bytes := Utf8.encode (name ++ "|" ++ payload)

/-- The signature of a payload for a cookie. -/
def signature (store : CookieStore) (name payload : String) : Bytes :=
  Hmac.sign store.key (signedOctets name payload)

/-- The value of a cookie that holds values signed at a time. -/
def encode (store : CookieStore) (name : String) (values : Json.Members) (time : Int) : String :=
  let text := Base64Url.encode (Utf8.encode (payload time values).render)
  text ++ "." ++ Base64Url.encode (store.signature name text)

/-- A payload signed at `time` is too old at `now`. -/
def isExpired (store : CookieStore) (time now : Int) : Bool :=
  0 < store.defaults.maxAge && store.defaults.maxAge < Word64.saturate (now - time)

/-- The values of a cookie at a time. -/
def decode (store : CookieStore) (name value : String) (now : Int) :
    Except SessionError Json.Members := do
  let some (text, signature) := Text.splitOnce? '.' value | throw .malformed
  let some signature := Base64Url.decode? signature | throw .malformed
  if signature != store.signature name text then throw .invalidSignature
  let some octets := Base64Url.decode? text | throw .malformed
  let some content := Utf8.decode? octets | throw .malformed
  let some (time, values) := (Json.parse? content).bind ofPayload? | throw .malformed
  if store.isExpired time now then throw .expired
  return values

/-- The session that the cookie headers of a request hold under a name. -/
def load (store : CookieStore) (name : String) (cookies : List Bytes) (now : Int) : Session :=
  match Cookie.find? (cookies.filterMap Header.visibleText?) name with
  | none => Session.fresh name store.defaults none
  | some value =>
    match store.decode name value now with
    | .ok values => Session.loaded name values store.defaults
    | .error error => Session.fresh name store.defaults (some error)

/-- The cookie text of a session, or nothing if it is not modified. -/
def save (store : CookieStore) (session : Session) (now : Int) : Except SaveFault (Option String) :=
  if session.isModified then
    let value :=
      if session.options.maxAge < 0 then "" else store.encode session.name session.values now
    match session.options.render? session.name value now with
    | none => .error .beyondCalendar
    | some text =>
      if Header.isValue (Utf8.encode text) then .ok (some text) else .error .invalidHeader
  else .ok none

/-- Adds a cookie header for every modified session, in order, up to the first
that cannot be sent. -/
def saveAll (store : CookieStore) (now : Int) : List Session → Headers → Headers × Option SaveFault
  | [], headers => (headers, none)
  | session :: sessions, headers =>
    match store.save session now with
    | .error fault => (headers, some fault)
    | .ok none => saveAll store now sessions headers
    | .ok (some text) =>
      saveAll store now sessions (headers.append "set-cookie" (Utf8.encode text))

end CookieStore

end Formwork
