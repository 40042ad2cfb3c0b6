import Formwork.Http.Header
import Formwork.Http.Uri

/-! # Requests and responses

Both are held as a whole, with their bodies.
-/

namespace Formwork

/-- A request. -/
structure Request where
  method : String
  uri : Uri
  headers : Headers := []
  body : Bytes := []

/-- A response. -/
structure Response where
  status : Nat
  headers : Headers := []
  body : Bytes := []

namespace Request

/-- The method is a nonempty sequence of token characters. -/
def isMethod (s : String) : Bool := Header.isToken s

/-- The first value of a header as text, or the empty text where there is none or
it holds more than visible characters. Capitals in the name do not count. -/
def header (r : Request) (name : String) : String :=
  ((r.headers.get? (Text.lowerAscii name)).bind Header.visibleText?).getD ""

/-- The number of values of a header. -/
def headerCount (r : Request) (name : String) : Nat :=
  (r.headers.getAll (Text.lowerAscii name)).length

/-- The cookie headers. -/
def cookies (r : Request) : List Bytes := r.headers.getAll "cookie"

end Request

namespace Response

/-- A plain text. -/
def plain (status : Nat) (text : String) : Response :=
  ⟨status, [("content-type", Utf8.encode "text/plain; charset=utf-8")], Utf8.encode text⟩

/-- The status says that the request succeeded. -/
def isSuccess (r : Response) : Bool := 200 ≤ r.status && r.status < 300

end Response

end Formwork
