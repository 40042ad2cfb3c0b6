import Formwork.Http.Dispatch
import Formwork.Http.Files
import Formwork.Route.Pattern
import Formwork.Settings.Reading

/-! # Applications

An application is declared with routes, middlewares, special actions and modules.
`App.build` starts the modules and compiles the routes into a server, or says
why it cannot. `Server.handle` answers requests: a path without its slashes at the
end is looked up; a path that no pattern matches, and a method that no route at the
path answers, have actions of their own. Every request has an identifier, which the
response repeats.
-/

namespace Formwork

/-- Something to start before an application answers requests. It may fail for
a reason in words. -/
abbrev Module (S : Type) := Settings → ExceptT String (StateM S) Unit

/-- The declaration of an application. -/
structure App (S : Type) where
  routes : Group (Middleware S) (Action S) := .empty
  middlewares : List (Middleware S) := []
  notFound : Option (Action S) := none
  methodNotAllowed : Option (Action S) := none
  panicHandler : Option (PanicHandler S) := none
  modules : List (Module S) := []

/-- Why an application cannot be built. -/
inductive BuildError where
  | settings (error : SettingsError)
  | moduleFailed (index : Nat) (reason : String)
  | route (error : RouteError)
  | duplicateRoute (verb : Verb) (path : String)
  | oldParameter (path : String)
  /-- A path is no pattern, or conflicts with another. -/
  | patternRefused (path : String)

/-- The error in words. -/
def BuildError.message : BuildError → String
  | settings error => "configuration error: " ++ error.message
  | moduleFailed index reason =>
    "module " ++ toString index ++ " failed to initialize: " ++ reason
  | route error => error.message
  | duplicateRoute verb path => "route " ++ verb.text ++ " " ++ path ++ " is declared twice"
  | oldParameter path => "route path `" ++ path ++ "` uses `:param`; use `\x7bparam\x7d`"
  | patternRefused path => "route path `" ++ path ++ "` is refused"

/-- What a path leads to: targets by verb, in order of declaration, and the target
of all other methods; or files. -/
inductive Endpoint (S : Type) where
  | methods (targets : List (Verb × Target S)) (otherwise : Target S)
  | files (mount : String)

/-- An application that answers requests. -/
structure Server (S : Type) where
  site : Site
  router : Router (Endpoint S)
  notFound : Target S
  panicHandler : Option (PanicHandler S)

/-- What surrounds a request: the time of its arrival, an identifier that no other
request has, and the files. -/
structure Surroundings where
  now : Int
  requestId : String
  files : FileTree := {}

namespace App

variable {S : Type}

/-- The response to a path that leads nowhere, unless the application has its own. -/
def defaultNotFound : Action S := fun c => return c.writeText 404 "404 page not found\n"

/-- The response to a method that a path does not answer, unless the application has
its own. -/
def defaultMethodNotAllowed : Action S := fun c => return c.writeText 405 "405 method not allowed\n"

/-- Starts modules in order. -/
def startModules (settings : Settings) (index : Nat) :
    List (Module S) → ExceptT BuildError (StateM S) Unit
  | [] => return ()
  | m :: ms => fun state =>
    match (m settings).run state with
    | (.ok (), state) => (startModules settings (index + 1) ms).run state
    | (.error reason, state) => (.error (.moduleFailed index reason), state)

/-- A segment of the path begins with a colon. -/
def usesOldParameter (path : String) : Bool :=
  (Text.split '/' path).any (Text.hasHead ":")

/-- Checks resolved routes in order: no path uses the old way to write parameters,
and no verb is declared twice for a path. -/
def checkRoutes (seen : List (String × Verb)) :
    List (Route (Middleware S) (Action S)) → Except BuildError Unit
  | [] => .ok ()
  | r :: rs =>
    if usesOldParameter r.path then .error (.oldParameter r.path)
    else if seen.contains (r.path, r.verb) then .error (.duplicateRoute r.verb r.path)
    else checkRoutes ((r.path, r.verb) :: seen) rs

/-- The target of a route: the middlewares of the application come first. -/
def targetOf (app : App S) (r : Route (Middleware S) (Action S)) : Target S :=
  ⟨r.path, app.middlewares ++ r.middlewares, r.action, 200⟩

/-- What a path leads to, given all routes. -/
def endpointOf (app : App S) (routes : List (Route (Middleware S) (Action S))) (path : String) :
    Endpoint S :=
  .methods ((routes.filter (·.path == path)).map fun r => (r.verb, app.targetOf r))
    ⟨path, [], app.methodNotAllowed.getD defaultMethodNotAllowed, 405⟩

/-- Adds a pattern to a router. -/
def addPattern (router : Router (Endpoint S)) (path : String) (endpoint : Endpoint S) :
    Except BuildError (Router (Endpoint S)) :=
  match router.insert? path endpoint with
  | some router => .ok router
  | none => .error (.patternRefused path)

/-- The paths that lead to files mounted at a path: itself, with a slash, and
everything below. -/
def mountPaths (mount : String) : List String :=
  [mount ++ "/\x7b*tail\x7d", mount, mount ++ "/"]

/-- The place where files are served, if they are. -/
def mount? (s : Settings.StaticFiles) : Option String :=
  if s.isServed then some (Text.trimEndBy (· == '/') s.path) else none

/-- Compiles resolved routes and the files to be served. -/
def compile (app : App S) (settings : Settings) (routes : List (Route (Middleware S) (Action S))) :
    Except BuildError (Router (Endpoint S)) := do
  checkRoutes [] routes
  let paths := (routes.map Route.path).eraseDups
  let router ← paths.foldlM
    (fun router path => addPattern router path (app.endpointOf routes path)) {}
  let mounts := match mount? settings.staticFiles with
    | some mount => (mountPaths mount).map fun path => (path, mount)
    | none => []
  mounts.foldlM (fun router (path, mount) => addPattern router path (.files mount)) router

/-- Signs sessions with the key of the settings, if they have one. -/
def storeOf (settings : Settings) : Option CookieStore :=
  if settings.sessionKey.isEmpty then none else some ⟨Utf8.encode settings.sessionKey, {}⟩

/-- Builds an application with given settings. -/
def build (app : App S) (settings : Settings) : ExceptT BuildError (StateM S) (Server S) := do
  startModules settings 0 app.modules
  let routes := app.routes.resolve
  let server : Except BuildError (Server S) := do
    let table ← (RouteTable.ofRoutes routes).mapError .route
    let router ← app.compile settings routes
    return {
      site := ⟨settings, table, storeOf settings⟩
      router
      notFound := ⟨"none", [], app.notFound.getD defaultNotFound, 404⟩
      panicHandler := app.panicHandler }
  ExceptT.mk (return server)

/-- Builds an application with the settings of a file. -/
def load (app : App S) (file : Option Bytes) : ExceptT BuildError (StateM S) (Server S) :=
  match Settings.load file with
  | .ok settings => app.build settings
  | .error error => throw (.settings error)

end App

/-- The target without the slashes at the end of its path; a path that ends in a
slash or begins with two keeps one slash at its front. -/
def Uri.trimmed (u : Uri) : Uri :=
  if Text.hasTail "/" u.path || Text.hasHead "//" u.path then
    { u with path := "/" ++ Text.trimBy (· == '/') u.path }
  else u

namespace Endpoint

variable {S : Type}

/-- The target that answers a method; the head of a response is answered as the
whole. -/
def target? (targets : List (Verb × Target S)) (method : String) : Option (Target S) :=
  match Verb.ofText? method with
  | some verb => targets.lookup verb
  | none => if method = "HEAD" then targets.lookup .get else none

/-- The methods that targets answer, as a header lists them. -/
def allowed (targets : List (Verb × Target S)) : String :=
  Text.join "," (targets.map fun (verb, _) => if verb = .get then "GET,HEAD" else verb.text)

/-- A segment stands for a parameter. -/
def isCapture (segment : String) : Bool :=
  Text.hasHead "\x7b" segment && Text.hasTail "\x7d" segment && !Text.hasHead "\x7b\x7b" segment &&
    !Text.hasTail "\x7d\x7d" segment && !Text.hasHead "\x7b*" segment

/-- The segments of a path behind those of a mount, if they agree. -/
def belowSegments? : (mount path : List String) → Option (List String)
  | [], path => some path
  | m :: mount, p :: path => if isCapture m || m = p then belowSegments? mount path else none
  | _ :: _, [] => none

/-- The path below a mount. -/
def below (mount path : String) : String :=
  match belowSegments? (Text.split '/' mount) (Text.split '/' path) with
  | some segments =>
    let rest := Text.join "/" segments
    if Text.hasHead "/" rest then rest else "/" ++ rest
  | none => path

end Endpoint

namespace Server

variable {S : Type}

/-- The response with a header, unless it has one of that name. -/
def withDefault (r : Response) (name : String) (value : Bytes) : Response :=
  if r.headers.contains name then r else { r with headers := r.headers.set name value }

/-- Takes the body from the response to a request that must not have one. -/
def trimBody (method : String) (r : Response) : Response :=
  if method = "HEAD" || (method = "CONNECT" && r.isSuccess) then { r with body := [] } else r

/-- Answers a request with its path as it is. -/
def route (server : Server S) (around : Surroundings) (request : Request) : Effect S Response :=
  let run (target : Target S) (params : Dict String) : Effect S Response :=
    target.dispatch server.panicHandler server.site around.now params request
  match server.router.find? request.uri.path with
  | none => run server.notFound ∅
  | some (_, .files mount) =>
    let path := Endpoint.below mount request.uri.path
    return Files.respond around.files server.site.settings.staticFiles.directory
      { request with uri := { request.uri with path } }
  | some (params, .methods targets otherwise) => do
    let params := decodedParams params
    match Endpoint.target? targets request.method with
    | some target => run target params
    | none =>
      return withDefault (← run otherwise params) "allow" (Utf8.encode (Endpoint.allowed targets))

/-- The header that identifies a request. -/
def idHeader : String := "x-request-id"

/-- Answers a request. -/
def handle (server : Server S) (around : Surroundings) (request : Request) : Effect S Response := do
  let id := (request.headers.get? idHeader).getD (Utf8.encode around.requestId)
  let headers :=
    if request.headers.contains idHeader then request.headers
    else request.headers.append idHeader id
  let response ← server.route around { request with uri := request.uri.trimmed, headers }
  return withDefault (trimBody request.method response) idHeader id

end Server

end Formwork
