import Formwork.Http.Context

/-! # From a request to a response

A request that has found its target runs through the middlewares and the action
of the target, each of which takes a context and hands it on. A panic on the way
throws away everything drafted; a handler may then draft another response. Besides
contexts, actions use a state of their own, of the type `S`, which survives
panics.
-/

namespace Formwork

/-- Whether the request goes on behind a middleware. -/
inductive Flow where
  | next
  | stop
deriving DecidableEq

/-- What the code of an application does: it uses the state `S`, and may panic. -/
abbrev Effect (S : Type) := ExceptT Panic (StateM S)

/-- The end of a chain. -/
abbrev Action (S : Type) := Context → Effect S Context

/-- A step in front of an action. -/
abbrev Middleware (S : Type) := Context → Effect S (Context × Flow)

/-- Drafts the response to a request that panicked, given the message. -/
abbrev PanicHandler (S : Type) := String → Context → Effect S Context

/-- What a request has found: the pattern of its path, the chain, and the status
that the response starts with. -/
structure Target (S : Type) where
  route : String
  middlewares : List (Middleware S)
  action : Action S
  status : Nat

namespace Target

variable {S : Type}

/-- Runs middlewares up to the first that stops, and the action if none does. -/
def runChain (action : Action S) : List (Middleware S) → Action S
  | [], c => action c
  | m :: ms, c => do
    let (c, flow) ← m c
    match flow with
    | .next => runChain action ms c
    | .stop => return c

/-- The response to a panic without a handler. -/
def internalError : Response := .plain 500 "internal server error"

/-- The response to a request whose body is too large. -/
def bodyTooLarge : Response := .plain 413 "request body too large"

/-- Answers a panic: the handler drafts a response on a fresh context. -/
def recover (handler : Option (PanicHandler S)) (c : Context) (panic : Panic) :
    Effect S Response := fun state =>
  match handler with
  | none => (.ok internalError, state)
  | some handler =>
    match (handler panic.message (c.fresh.withStatus 500)).run state with
    | (.ok c, state) => (c.respond, state)
    | (.error _, state) => (.ok internalError, state)

/-- Answers a request. A body larger than `bodyLimit` is refused before anything
else; a panic while the response is made up is not recovered. -/
def dispatch (handler : Option (PanicHandler S)) (site : Site) (now : Int) (target : Target S)
    (params : Dict String) (request : Request) : Effect S Response := fun state =>
  if site.settings.limits.bodySize < request.body.length then (.ok bodyTooLarge, state)
  else
    let c : Context :=
      { site, now, request, params, route := target.route, status := target.status }
    match (runChain target.action target.middlewares c).run state with
    | (.ok c, state) => (c.respond, state)
    | (.error panic, state) => (recover handler c panic).run state

end Target

end Formwork
