import Formwork.Json.Basic
import Formwork.Session.Cookie

/-! # Sessions

A session is a set of named values that a client keeps between requests in a
cookie. It remembers what it was loaded with, so that only a changed one has to
be sent back.
-/

namespace Formwork

/-- What goes wrong with a session. -/
inductive SessionError where
  /-- No key to sign sessions with is configured. -/
  | storeNotConfigured
  /-- A cookie that is not in the form in which the store writes them. -/
  | malformed
  /-- A signature that the store did not make for this name and content. -/
  | invalidSignature
  /-- A cookie older than the store allows. -/
  | expired
  /-- A cookie text that cannot be a header. -/
  | invalidHeader
deriving DecidableEq

/-- The error in words. -/
def SessionError.message : SessionError → String
  | storeNotConfigured => "session store is not configured; set `keys.sessions`"
  | malformed => "session cookie is malformed"
  | invalidSignature => "session cookie signature does not match"
  | expired => "session cookie has expired"
  | invalidHeader => "session cookie cannot be sent as a header"

/-- The values and cookie options of a named session. -/
structure Session where
  name : String
  values : Json.Members
  options : CookieOptions
  loadedValues : Json.Members
  loadedOptions : CookieOptions
  isNew : Bool
  loadError : Option SessionError

namespace Session

/-- A session without values; the error says why a cookie was discarded. -/
def fresh (name : String) (options : CookieOptions) (loadError : Option SessionError) : Session :=
  ⟨name, [], options, [], options, true, loadError⟩

/-- A session with the values of a cookie. -/
def loaded (name : String) (values : Json.Members) (options : CookieOptions) : Session :=
  ⟨name, values, options, values, options, false, none⟩

/-- The value of a key. -/
def get? (s : Session) (key : String) : Option Json := s.values.lookup key

/-- Sets the value of a key. -/
def set (s : Session) (key : String) (value : Json) : Session :=
  { s with values := Json.Members.insert key value s.values }

/-- Removes a key. -/
def delete (s : Session) (key : String) : Session :=
  { s with values := Json.Members.erase key s.values }

/-- The key under which a value is kept that is read once. -/
def flashKey (key : String) : String := key ++ "_flash"

/-- Sets a value that is read once. -/
def setFlash (s : Session) (key : String) (value : Json) : Session := s.set (flashKey key) value

/-- Reads a value that is read once, and the session without it. -/
def takeFlash (s : Session) (key : String) : Option Json × Session :=
  (s.get? (flashKey key), s.delete (flashKey key))

/-- Sets the domain of the cookie. -/
def setDomain (s : Session) (domain : String) : Session :=
  { s with options := { s.options with domain := some domain } }

/-- Sets the path of the cookie. -/
def setPath (s : Session) (path : String) : Session :=
  { s with options := { s.options with path } }

/-- Sets the lifetime of the cookie in seconds. -/
def setMaxAge (s : Session) (seconds : Int) : Session :=
  { s with options := { s.options with maxAge := seconds } }

/-- Deletes the cookie at the end of the request. -/
def expire (s : Session) : Session := s.setMaxAge (-1)

/-- Sets whether the cookie is sent over secure connections only; scripts can no
longer read it in either case. -/
def setSecure (s : Session) (secure : Bool) : Session :=
  { s with options := { s.options with secure, httpOnly := true } }

/-- Sets which requests from other sites carry the cookie. -/
def setSameSite (s : Session) (sameSite : SameSite) : Session :=
  { s with options := { s.options with sameSite } }

/-- The values or options differ from those that were loaded. -/
def isModified (s : Session) : Bool :=
  Json.object s.values != Json.object s.loadedValues || s.options != s.loadedOptions

end Session

end Formwork
