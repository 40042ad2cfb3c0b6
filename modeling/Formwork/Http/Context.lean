import Formwork.Form.Multipart
import Formwork.Form.Sniff
import Formwork.Http.Message
import Formwork.Json.Printer
import Formwork.Route.Table
import Formwork.Session.Store
import Formwork.Settings.Basic

/-! # Contexts

A context is what an action sees of one request: the request itself, what the
application provides, and the response that is being drafted. Sessions are loaded
when they are first asked for, and those that were changed are sent along with the
response.
-/

namespace Formwork

/-- What all requests of an application share. -/
structure Site where
  settings : Settings
  routes : RouteTable
  store : Option CookieStore

/-- A panic: the message of whoever panicked, if it is a text. -/
inductive Panic where
  | text (message : String)
  | other
deriving DecidableEq

/-- The message of a panic. -/
def Panic.message : Panic → String
  | text message => message
  | other => "unknown panic"

/-- What goes wrong when a response is drafted. -/
inductive ResponseError where
  | invalidHeader
  | unencodable
  | route (error : RouteError)
deriving DecidableEq

/-- What the writing of a value produced: octets, and whether they are all. -/
structure Encoding where
  octets : Bytes
  isComplete : Bool

/-- A document in writing. -/
def Encoding.ofJson (j : Json) : Encoding := ⟨Utf8.encode j.render, true⟩

/-- A request on its way through an application, and the response drafted for it.
`route` is the pattern of the matched path, `shared` holds what middlewares leave
for each other. -/
structure Context where
  site : Site
  now : Int
  request : Request
  params : Dict String
  route : String
  status : Nat := 200
  headers : Headers := []
  body : Bytes := []
  sessions : List Session := []
  shared : Dict Json := ∅

/-- An operation on the draft of a response. What it did before it failed stays
done. -/
abbrev Drafting := ExceptT ResponseError (StateM Context)

namespace Context

/-! ## The response -/

/-- Sets the status. -/
def withStatus (c : Context) (status : Nat) : Context := { c with status }

/-- Sets the status and adds octets to the body. -/
def write (c : Context) (status : Nat) (octets : Bytes) : Context :=
  { c with status, body := c.body ++ octets }

/-- Sets the status and adds a text to the body. -/
def writeText (c : Context) (status : Nat) (text : String) : Context :=
  c.write status (Utf8.encode text)

/-- Gives a header one value. -/
def setHeader (name value : String) : Drafting Unit := do
  if Header.isToken name && Header.isValue (Utf8.encode value) then
    modify fun c =>
      { c with headers := c.headers.set (Text.lowerAscii name) (Utf8.encode value) }
  else throw .invalidHeader

/-- Sets the type of the body. -/
def setContentType (type : String) : Drafting Unit := setHeader "content-type" type

/-- Adds a line with an encoded value to the body, and says so in the type. -/
def writeEncoding (e : Encoding) : Drafting Unit := do
  modify fun c => { c with body := c.body ++ e.octets }
  if e.isComplete then
    modify fun c => { c with body := c.body ++ [0x0A] }
    setContentType "application/json"
  else throw .unencodable

/-- Sets the status and adds a line with an encoded value to the body. -/
def writeEncodingWith (status : Nat) (e : Encoding) : Drafting Unit := do
  modify (·.withStatus status)
  writeEncoding e

/-- Sends the client somewhere else. -/
def redirect (url : String) (status : Nat) : Drafting Unit := do
  setHeader "location" url
  modify (·.withStatus status)

/-- The path of a named route with its parameters filled. -/
def urlFor (c : Context) (name : String) (params : List (String × String)) :
    Except RouteError String :=
  c.site.routes.urlFor name params

/-- Sends the client to a named route. -/
def redirectToRoute (name : String) (params : List (String × String)) (status : Nat) :
    Drafting Unit := do
  match (← get).urlFor name params with
  | .ok url => redirect url status
  | .error e => throw (.route e)

/-! ## The request -/

/-- A parameter of the path, or the empty text. -/
def param (c : Context) (key : String) : String := (c.params.get? key).getD ""

/-- The first value of a key in the query, or the empty text. -/
def query (c : Context) (key : String) : String :=
  let pairs := (c.request.uri.query.map fun q => FormPairs.read (Utf8.encode q)).getD []
  ((pairs.find? fun pair => pair.1 == key).map Prod.snd).getD ""

/-- The url-encoded form: the pairs of a body of that type, then those of the
query. -/
def form (c : Context) : Form :=
  let isForm := Text.hasHead "application/x-www-form-urlencoded" (c.request.header "content-type")
  Form.ofEncoded (if isForm then some c.request.body else none) c.request.uri.query

/-- The multipart form of a body with at most `limit` octets, for which an application
has no other limit. -/
def multipartForm (c : Context) (limit : Nat) : Except FormError MultipartForm :=
  if !Text.hasHead "multipart/form-data" (c.request.header "content-type") then
    .error .notMultipart
  else if limit < c.request.body.length then .error (.tooLarge c.request.body.length limit)
  else MultipartForm.ofBody none (c.request.headers.get? "content-type") c.request.uri.query
    c.request.body

/-! ## Sessions -/

/-- Applies `f` to the first session of a name. -/
def changeSession {α : Type} (name : String) (f : Session → α × Session) :
    List Session → Option (α × List Session)
  | [] => none
  | s :: rest =>
    if s.name = name then
      let (result, s) := f s
      some (result, s :: rest)
    else (changeSession name f rest).map fun (result, rest) => (result, s :: rest)

/-- Uses the session of a name, which is loaded when it is first used. -/
def useSession {α : Type} (c : Context) (name : String) (f : Session → α × Session) :
    Except SessionError (α × Context) :=
  match c.site.store with
  | none => .error .storeNotConfigured
  | some store =>
    match changeSession name f c.sessions with
    | some (result, sessions) => .ok (result, { c with sessions })
    | none =>
      let (result, s) := f (store.load name c.request.cookies c.now)
      .ok (result, { c with sessions := c.sessions ++ [s] })

/-! ## The end -/

/-- A context for the same request with nothing drafted. -/
def fresh (c : Context) : Context :=
  { site := c.site, now := c.now, request := c.request, params := c.params, route := c.route }

/-- The response as drafted, with cookies for the sessions that were changed and a
type found out from the body where none was given. A session that cannot be sent
ends the cookies; one beyond the calendar is a panic. -/
def respond (c : Context) : Except Panic Response := do
  let (headers, fault) := match c.site.store with
    | some store => store.saveAll c.now c.sessions c.headers
    | none => (c.headers, none)
  if fault = some .beyondCalendar then throw (.text "the cookie expires beyond the calendar")
  let headers :=
    if c.body.isEmpty || headers.contains "content-type" then headers
    else headers.set "content-type" (Utf8.encode (Sniff.mediaType c.body))
  return ⟨c.status, headers, c.body⟩

end Context

end Formwork
