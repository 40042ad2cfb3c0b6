import Formwork.Http.App

/-! # A client that keeps cookies

A client sends requests to a server and keeps the cookies of the responses, which it
adds to later requests that bring none of their own.
-/

namespace Formwork

/-- The cookies that a client holds. -/
structure Client where
  cookies : Dict String := ∅

namespace Client

/-- The name and value that a cookie header begins with. -/
def cookieOf? (header : Bytes) : Option (String × String) :=
  (Header.visibleText? header).bind fun text =>
    Text.splitOnce? '=' (String.ofList (text.toList.takeWhile (· != ';')))

/-- Keeps the cookie of a header; one with an empty value is forgotten. -/
def keep (client : Client) (header : Bytes) : Client :=
  match cookieOf? header with
  | some (name, value) =>
    if value.isEmpty then ⟨client.cookies.erase name⟩ else ⟨client.cookies.insert name value⟩
  | none => client

/-- The cookies as a header. -/
def cookieHeader (client : Client) : Bytes :=
  let pairs := client.cookies.entries.map fun (name, value) => name ++ "=" ++ value
  Utf8.encode (Text.join "; " pairs)

/-- The request with the cookies of the client, unless it has cookies or there are
none. -/
def withCookies (client : Client) (request : Request) : Request :=
  if request.headers.contains "cookie" || client.cookies.isEmpty then request
  else { request with headers := request.headers.append "cookie" client.cookieHeader }

/-- Sends a request, and keeps the cookies of the response. -/
def send {S : Type} (client : Client) (server : Server S) (around : Surroundings)
    (request : Request) : Effect S (Response × Client) := do
  let response ← server.handle around (client.withCookies request)
  return (response, (response.headers.getAll "set-cookie").foldl keep client)

/-- A request for a path without headers and body. -/
def getRequest? (uri : String) : Option Request :=
  (Uri.parse? uri).map fun uri => { method := "GET", uri }

/-- A path answers with the status 200. -/
def urlOk {S : Type} (client : Client) (server : Server S) (around : Surroundings) (uri : String) :
    Effect S (Bool × Client) :=
  match getRequest? uri with
  | some request => do
    let (response, client) ← client.send server around request
    return (response.status == 200, client)
  | none => return (false, client)

/-- A named route needs no parameters and answers with the status 200. -/
def routeOk {S : Type} (client : Client) (server : Server S) (around : Surroundings)
    (name : String) : Effect S (Bool × Client) :=
  match server.site.routes.urlFor name [] with
  | .ok uri => client.urlOk server around uri
  | .error _ => return (false, client)

/-- A request that submits a url-encoded form. -/
def formRequest? (method uri : String) (fields : List (String × String)) : Option Request := do
  if !Request.isMethod method then none
  let type := Utf8.encode "application/x-www-form-urlencoded"
  return {
    method
    uri := ← Uri.parse? uri
    headers := [("content-type", type)]
    body := FormPairs.write fields }

/-- A request that submits a multipart body. -/
def multipartRequest? (uri : String) (w : MultipartWriter) : Option Request := do
  return {
    method := "POST"
    uri := ← Uri.parse? uri
    headers := [("content-type", Utf8.encode MultipartWriter.contentType)]
    body := w.body }

end Client

end Formwork
