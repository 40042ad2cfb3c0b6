import Formwork.Calendar.Date
import Formwork.Text.CharClass

/-! # Cookies

A cookie is set by a text of pieces joined by `; `: its name and value, and then
what its options say. A positive lifetime gives both an expiry date and a maximum
age, a negative one deletes the cookie, and zero leaves it to the browser.
Cookies come back in headers of pieces between semicolons; `Cookie.find?` takes
the first piece with the name.
-/

namespace Formwork

/-- Which requests from other sites carry a cookie. -/
inductive SameSite where
  | default | lax | strict | none
deriving DecidableEq

/-- What a browser is told about a cookie. The lifetime is in seconds. -/
structure CookieOptions where
  path : String := "/"
  domain : Option String := none
  maxAge : Int := 86400 * 30
  secure : Bool := false
  httpOnly : Bool := true
  sameSite : SameSite := .default
deriving DecidableEq

namespace CookieOptions

/-- The pieces that give the lifetime of a cookie set at a time in seconds since
1970, if its end lies within the calendar. -/
def lifetime? (o : CookieOptions) (now : Int) : Option (List String) :=
  if 0 < o.maxAge then
    (DateTime.ofUnix? (now + o.maxAge)).map fun expiry =>
      ["Expires=" ++ Calendar.gmtText expiry, "Max-Age=" ++ Decimal.intText o.maxAge]
  else if o.maxAge < 0 then some ["Expires=Thu, 01 Jan 1970 00:00:01 GMT", "Max-Age=0"]
  else some []

/-- The piece that says where the cookie belongs. -/
def sameSitePieces : SameSite → List String
  | .default => []
  | .lax => ["SameSite=Lax"]
  | .strict => ["SameSite=Strict"]
  | .none => ["SameSite=None"]

/-- A piece for a text that is not empty. -/
def piece (name value : String) : List String := if value = "" then [] else [name ++ "=" ++ value]

/-- The pieces of a cookie set at a time. -/
def pieces? (o : CookieOptions) (name value : String) (now : Int) : Option (List String) :=
  (o.lifetime? now).map fun lifetime =>
    [name ++ "=" ++ (if o.maxAge < 0 then "" else value)] ++ piece "Path" o.path ++
      piece "Domain" (o.domain.getD "") ++ lifetime ++
      (if o.httpOnly then ["HttpOnly"] else []) ++ (if o.secure then ["Secure"] else []) ++
      sameSitePieces o.sameSite

/-- The text that sets a cookie at a time, if its end lies within the calendar. -/
def render? (o : CookieOptions) (name value : String) (now : Int) : Option String :=
  (o.pieces? name value now).map (Text.join "; ")

end CookieOptions

namespace Cookie

/-- The name and value of a piece of a header; quotation marks around a value do
not belong to it. -/
def ofPiece? (piece : String) : Option (String × String) :=
  (Text.splitOnce? '=' (Text.trim piece)).map fun (name, value) =>
    (name, Text.trimBy (· == '"') value)

/-- The names and values of a list of headers in order. -/
def pairs (headers : List String) : List (String × String) :=
  headers.flatMap fun header => (Text.split ';' header).filterMap ofPiece?

/-- The value of the first cookie with a name. -/
def find? (headers : List String) (name : String) : Option String :=
  ((pairs headers).find? fun pair => pair.1 == name).map Prod.snd

end Cookie

end Formwork
