import Formwork.Proofs.Http.Compiled
import Mathlib.Logic.Relation

/-! # Code that uses contexts by their operations

An action is handed a context and may use it through its operations only: it drafts a
response and uses sessions (`Context.Step`). What it hands on is therefore reached from
what it was given, and so is what a whole chain hands on (`Target.runChain_steps`). An
application whose parts are all of this kind becomes a server of which the same holds
(`App.isLawful_of_build`).
-/

namespace Formwork

/-- The second session is the first with other values and options. -/
def Session.Alters (s t : Session) : Prop :=
  t = { s with values := t.values, options := t.options }

/-- Every operation on a session alters its values and options at most. -/
theorem Session.alters_operations (s : Session) (key : String) (value : Json) :
    s.Alters (s.set key value) ∧ s.Alters (s.delete key) ∧ s.Alters (s.setFlash key value) ∧
      s.Alters (s.takeFlash key).2 ∧ (∀ domain, s.Alters (s.setDomain domain)) ∧
      (∀ path, s.Alters (s.setPath path)) ∧ (∀ seconds, s.Alters (s.setMaxAge seconds)) ∧
      s.Alters s.expire ∧ (∀ secure, s.Alters (s.setSecure secure)) ∧
      ∀ sameSite, s.Alters (s.setSameSite sameSite) :=
  ⟨rfl, rfl, rfl, rfl, fun _ => rfl, fun _ => rfl, fun _ => rfl, rfl, fun _ => rfl, fun _ => rfl⟩

namespace Context

/-- One use of a context: something is drafted, but no header that sets a cookie, or a
session is used. -/
inductive Step : Context → Context → Prop
  | draft {c : Context} (status : Nat) {headers : Headers} (body : Bytes) (shared : Dict Json)
      (quiet : headers.getAll "set-cookie" = c.headers.getAll "set-cookie") :
      Step c { c with status, headers, body, shared }
  | session {c next : Context} {α : Type} {name : String} {f : Session → α × Session} {result : α}
      (alters : ∀ s : Session, s.Alters (f s).2) (uses : c.useSession name f = .ok (result, next)) :
      Step c next

/-- Any number of uses of a context. -/
abbrev Steps : Context → Context → Prop := Relation.ReflTransGen Step

variable {c d : Context}

theorem useSession_eq_ok {α : Type} {name : String} {f : Session → α × Session} {result : α}
    (h : c.useSession name f = .ok (result, d)) :
    ∃ sessions, d = { c with sessions } := by
  unfold useSession at h
  split at h
  · cases h
  · split at h
    · cases h
      exact ⟨_, rfl⟩
    · cases h
      exact ⟨_, rfl⟩

/-- Uses leave alone what a context was made with. -/
theorem Step.keeps (h : Step c d) : d.site = c.site ∧ d.now = c.now ∧ d.request = c.request := by
  cases h with
  | draft status body shared quiet => exact ⟨rfl, rfl, rfl⟩
  | session alters uses =>
      obtain ⟨sessions, rfl⟩ := useSession_eq_ok uses
      exact ⟨rfl, rfl, rfl⟩

theorem Step.quiet (h : Step c d) :
    d.headers.getAll "set-cookie" = c.headers.getAll "set-cookie" := by
  cases h with
  | draft status body shared quiet => exact quiet
  | session alters uses =>
      obtain ⟨sessions, rfl⟩ := useSession_eq_ok uses
      rfl

theorem Steps.keeps (h : Steps c d) : d.site = c.site ∧ d.now = c.now ∧ d.request = c.request := by
  induction h with
  | refl => exact ⟨rfl, rfl, rfl⟩
  | tail _ hs ih =>
      obtain ⟨hsite, hnow, hrequest⟩ := hs.keeps
      exact ⟨hsite.trans ih.1, hnow.trans ih.2.1, hrequest.trans ih.2.2⟩

/-- No use of a context sets a cookie by itself. -/
theorem Steps.quiet (h : Steps c d) :
    d.headers.getAll "set-cookie" = c.headers.getAll "set-cookie" := by
  induction h with
  | refl => rfl
  | tail _ hs ih => exact hs.quiet.trans ih

end Context

/-! ## Actions that use contexts by their operations -/

section Lawful

variable {S : Type}

/-- Whatever the action hands on was reached from what it was given. -/
def Action.IsLawful (action : Action S) : Prop :=
  ∀ c state d later, (action c).run state = (.ok d, later) → Context.Steps c d

/-- Whatever the middleware hands on was reached from what it was given. -/
def Middleware.IsLawful (middleware : Middleware S) : Prop :=
  ∀ c state d flow later, (middleware c).run state = (.ok (d, flow), later) → Context.Steps c d

/-- Whatever the handler drafts was reached from what it was given. -/
def PanicHandler.IsLawful (handler : PanicHandler S) : Prop :=
  ∀ message, Action.IsLawful (handler message)

/-- A chain of lawful steps. -/
structure Target.IsLawful (target : Target S) : Prop where
  middlewares : ∀ m ∈ target.middlewares, Middleware.IsLawful m
  action : Action.IsLawful target.action

/-- All targets at the place are lawful. -/
def Endpoint.IsLawful : Endpoint S → Prop
  | .methods targets otherwise => (∀ entry ∈ targets, entry.2.IsLawful) ∧ otherwise.IsLawful
  | .files _ => True

/-- Every part of the server is lawful. -/
structure Server.IsLawful (server : Server S) : Prop where
  endpoints : ∀ entry ∈ server.router.entries, entry.2.IsLawful
  notFound : server.notFound.IsLawful
  panicHandler : ∀ handler ∈ server.panicHandler, PanicHandler.IsLawful handler

/-- Every part of the application is lawful. -/
structure App.IsLawful (app : App S) : Prop where
  middlewares : ∀ m ∈ app.middlewares, Middleware.IsLawful m
  routes : ∀ r ∈ app.routes.resolve,
    (∀ m ∈ r.middlewares, Middleware.IsLawful m) ∧ Action.IsLawful r.action
  notFound : ∀ action ∈ app.notFound, Action.IsLawful action
  methodNotAllowed : ∀ action ∈ app.methodNotAllowed, Action.IsLawful action
  panicHandler : ∀ handler ∈ app.panicHandler, PanicHandler.IsLawful handler

/-- A chain of lawful steps hands on what it reached. -/
theorem Target.runChain_steps {action : Action S} {middlewares : List (Middleware S)}
    (hm : ∀ m ∈ middlewares, Middleware.IsLawful m) (ha : Action.IsLawful action) :
    Action.IsLawful (runChain action middlewares) := by
  induction middlewares with
  | nil => exact ha
  | cons m ms ih =>
      intro c state d later h
      obtain ⟨⟨e, flow⟩, middle, hfirst, hrest⟩ := run_bind_eq_ok.1 h
      have hstep := hm m List.mem_cons_self c state e flow middle hfirst
      cases flow with
      | next =>
          have hms := ih fun other ho => hm other (List.mem_cons_of_mem _ ho)
          exact hstep.trans (hms e middle d later hrest)
      | stop =>
          cases hrest
          exact hstep

/-! ## Servers of lawful applications -/

namespace App

variable {app : App S} {settings : Settings}

theorem isLawful_targetOf (h : app.IsLawful) {r : Route (Middleware S) (Action S)}
    (hr : r ∈ app.routes.resolve) : (app.targetOf r).IsLawful := by
  obtain ⟨hm, ha⟩ := h.routes r hr
  refine ⟨fun m hmem => ?_, ha⟩
  rcases List.mem_append.1 hmem with hmem | hmem
  · exact h.middlewares m hmem
  · exact hm m hmem

/-- The action of the application, or a lawful one in its place. -/
theorem isLawful_getD {action : Option (Action S)} {default : Action S}
    (h : ∀ a ∈ action, Action.IsLawful a) (hd : Action.IsLawful default) :
    Action.IsLawful (action.getD default) := by
  cases action with
  | none => exact hd
  | some a => exact h a rfl

theorem isLawful_default :
    Action.IsLawful (defaultNotFound (S := S)) ∧
      Action.IsLawful (defaultMethodNotAllowed (S := S)) := by
  constructor
  · intro c state d later h
    cases h
    exact .single (.draft _ _ _ rfl)
  · intro c state d later h
    cases h
    exact .single (.draft _ _ _ rfl)

theorem isLawful_endpointOf (h : app.IsLawful) (path : String) :
    (app.endpointOf app.routes.resolve path).IsLawful := by
  refine ⟨fun entry he => ?_, ⟨fun m hm => ?_, ?_⟩⟩
  · obtain ⟨r, hr, rfl⟩ := List.mem_map.1 he
    exact isLawful_targetOf h (List.mem_filter.1 hr).1
  · cases hm
  · exact isLawful_getD h.methodNotAllowed isLawful_default.2

theorem IsCompiled.isLawful {router : Router (Endpoint S)}
    (h : app.IsCompiled app.routes.resolve router) (hl : app.IsLawful) :
    ∀ entry ∈ router.entries, entry.2.IsLawful := by
  intro entry hm
  rcases h.entries entry hm with ⟨r, _, _, he⟩ | ⟨mount, he⟩
  · rw [he]
    exact isLawful_endpointOf hl r.path
  · rw [he]
    trivial

/-- A lawful application becomes a lawful server, which signs sessions with the key of
the settings. -/
theorem isLawful_of_build {server : Server S} {state later : S} (hl : app.IsLawful)
    (h : (app.build settings).run state = (.ok server, later)) :
    server.IsLawful ∧ server.site.store = storeOf settings := by
  have hb := isBuilt_of_build h
  refine ⟨⟨hb.router.isLawful hl, ?_, ?_⟩, hb.site.2⟩
  · rw [hb.notFound]
    refine ⟨fun m hm => ?_, isLawful_getD hl.notFound isLawful_default.1⟩
    cases hm
  · rw [hb.panicHandler]
    exact hl.panicHandler

end App

end Lawful

end Formwork
