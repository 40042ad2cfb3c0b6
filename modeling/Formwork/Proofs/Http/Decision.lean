import Formwork.Proofs.Http.Chain

/-! # Which chain answers a request

Where no declared path has braces and no files are served, a verb and a path have exactly one
target (`App.Decides`): the route that has both; failing that, the action for other methods
if some route has the path; and the action for unknown paths otherwise. The last two have no
middlewares in front of them. Whatever is asked of a server, the chain of this target runs on a
fresh context, and what it drafts is sent with two headers at most put in
(`App.handle_of_decides`).
-/

namespace Formwork

variable {S : Type}

namespace Target

variable {target : Target S} {handler : Option (PanicHandler S)}

/-- The answer of a chain that starts on a context: what it drafts, or what is made of its
panic. -/
def answer (target : Target S) (handler : Option (PanicHandler S)) (start : Context) (state : S) :
    Except Panic Response × S :=
  match (runChain target.action target.middlewares start).run state with
  | (.ok c, later) => (c.respond, later)
  | (.error panic, later) => (recover handler start panic).run later

theorem dispatch_of_fits {site : Site} {now : Int} {params : Dict String} {request : Request}
    (fits : request.body.length ≤ site.settings.limits.bodySize) (state : S) :
    (target.dispatch handler site now params request).run state =
      target.answer handler (target.start site now params request) state := by
  rw [run_dispatch, if_neg (by omega)]
  rfl

end Target

namespace Server

variable {server : Server S} {around : Surroundings} {request : Request} {target : Target S}
  {params : Dict String}

/-- The response with headers put in where it has none of their name. -/
def completed (added : Headers) (r : Response) : Response :=
  added.foldl (fun r header => withDefault r header.1 header.2) r

/-- A request that leads to a target is answered by it. A header may say which methods are
allowed. -/
theorem route_of_target? (h : server.target? request = some (target, params)) :
    ∃ added : Headers, (∀ header ∈ added, header.1 = "allow") ∧ ∀ state,
      (server.route around request).run state =
        (((target.dispatch server.panicHandler server.site around.now params request).run
            state).1.map (completed added),
          ((target.dispatch server.panicHandler server.site around.now params request).run
            state).2) := by
  have hnothing : ∀ (t : Target S) (values : Dict String) (state : S),
      (t.dispatch server.panicHandler server.site around.now values request).run state =
        (((t.dispatch server.panicHandler server.site around.now values request).run
            state).1.map (completed []),
          ((t.dispatch server.panicHandler server.site around.now values request).run
            state).2) := by
    intro t values state
    cases (t.dispatch server.panicHandler server.site around.now values request).run state with
    | mk result later => cases result <;> rfl
  unfold target? at h
  unfold route
  cases hf : server.router.find? request.uri.path with
  | none =>
      rw [hf] at h
      cases h
      exact ⟨[], by simp, hnothing _ _⟩
  | some hit =>
      obtain ⟨values, endpoint⟩ := hit
      rw [hf] at h
      cases endpoint with
      | files mount => cases h
      | methods targets otherwise =>
          dsimp only at h ⊢
          cases ht : Endpoint.target? targets request.method with
          | some found =>
              rw [ht] at h
              cases h
              exact ⟨[], by simp, hnothing _ _⟩
          | none =>
              rw [ht] at h
              cases h
              refine ⟨[("allow", Utf8.encode (Endpoint.allowed targets))], by simp, ?_⟩
              intro state
              exact run_bind_pure _ _ state

theorem trimBody_of_verb (verb : Verb) (r : Response) : trimBody verb.text r = r := by
  cases verb <;> rfl

theorem handle_of_target? {verb : Verb} (method : request.method = verb.text)
    (h : server.target? (arriving around request) = some (target, params)) :
    ∃ added : Headers, (∀ header ∈ added, header.1 = "allow" ∨ header.1 = idHeader) ∧
      ∀ state, (server.handle around request).run state =
        (((target.dispatch server.panicHandler server.site around.now params
            (arriving around request)).run state).1.map (completed added),
          ((target.dispatch server.panicHandler server.site around.now params
            (arriving around request)).run state).2) := by
  obtain ⟨added, hadded, hroute⟩ := @route_of_target? S server around _ _ _ h
  let id := (request.headers.get? idHeader).getD (Utf8.encode around.requestId)
  refine ⟨added ++ [(idHeader, id)], ?_, ?_⟩
  · intro header hm
    rcases List.mem_append.1 hm with hm | hm
    · exact Or.inl (hadded header hm)
    · exact Or.inr (congrArg Prod.fst (List.mem_singleton.1 hm))
  · intro state
    have hcompleted : ∀ r, completed (added ++ [(idHeader, id)]) r =
        withDefault (trimBody request.method (completed added r)) idHeader id := by
      intro r
      rw [method, trimBody_of_verb]
      simp [completed]
    rw [handle, run_bind_pure]
    change (Except.map _ ((server.route around (arriving around request)).run state).1,
      ((server.route around (arriving around request)).run state).2) = _
    rw [hroute]
    cases ((target.dispatch server.panicHandler server.site around.now params
        (arriving around request)).run state).1 with
    | error panic => rfl
    | ok r => simp only [Except.map, hcompleted, id]

end Server

namespace App

variable {app : App S} {settings : Settings} {server : Server S} {s₀ s₁ : S} {verb : Verb}
  {path : String} {target : Target S} {around : Surroundings} {request : Request}
  {routes : List (Route (Middleware S) (Action S))} {r : Route (Middleware S) (Action S)}

/-- What the application has for a verb and a path: a route, or else the action for other
methods, or else, if no route has the path, the action for unknown paths. -/
inductive Decides (app : App S) (verb : Verb) (path : String) : Target S → Prop
  | route {r : Route (Middleware S) (Action S)} (declared : r ∈ app.routes.resolve)
      (same_verb : r.verb = verb) (same_path : r.path = path) :
      Decides app verb path ⟨path, app.middlewares ++ r.middlewares, r.action, 200⟩
  | methodNotAllowed {r : Route (Middleware S) (Action S)} (declared : r ∈ app.routes.resolve)
      (same_path : r.path = path)
      (other_verbs : ∀ r ∈ app.routes.resolve, r.path = path → r.verb ≠ verb) :
      Decides app verb path
        ⟨path, [], app.methodNotAllowed.getD defaultMethodNotAllowed, 405⟩
  | notFound (other_paths : ∀ r ∈ app.routes.resolve, r.path ≠ path) :
      Decides app verb path ⟨"none", [], app.notFound.getD defaultNotFound, 404⟩

theorem exists_decides (app : App S) (verb : Verb) (path : String) :
    ∃ target, app.Decides verb path target := by
  by_cases hroute : ∃ r ∈ app.routes.resolve, r.path = path ∧ r.verb = verb
  · obtain ⟨r, hr, hpath, hverb⟩ := hroute
    exact ⟨_, .route hr hverb hpath⟩
  · by_cases hpath : ∃ r ∈ app.routes.resolve, r.path = path
    · obtain ⟨r, hr, hpath⟩ := hpath
      refine ⟨_, .methodNotAllowed hr hpath ?_⟩
      intro other ho hother hverb
      exact hroute ⟨other, ho, hother, hverb⟩
    · refine ⟨_, .notFound ?_⟩
      intro r hr hother
      exact hpath ⟨r, hr, hother⟩

namespace IsCompiled

variable {router : Router (Endpoint S)}

/-- A path without braces that is declared is found. -/
theorem find?_of_declared (h : app.IsCompiled routes router) (hr : r ∈ routes)
    (plain : r.path.toList.any PathPart.isBrace = false) :
    router.find? r.path = some ([], app.endpointOf routes r.path) := by
  obtain ⟨p, hp, hm⟩ := h.covers r hr
  have hliteral := PathPattern.parse?_plain plain hp
  subst hliteral
  rw [Router.find?_eq_some_iff h.apart]
  refine ⟨_, hm, ?_, fun entry _ _ => PathPattern.precedes_literal entry.1 _⟩
  rw [PathPattern.match?_literal, if_pos rfl]

/-- Where no declared path has braces, a path that is not declared is not found, unless it
leads to files. -/
theorem find?_of_undeclared (h : app.IsCompiled routes router)
    (plain : ∀ r ∈ routes, r.path.toList.any PathPart.isBrace = false)
    (unserved : ∀ entry ∈ router.entries, ∀ mount, entry.2 ≠ .files mount)
    (undeclared : ∀ r ∈ routes, r.path ≠ path) : router.find? path = none := by
  cases hf : router.find? path with
  | none => rfl
  | some hit =>
      obtain ⟨p, hm, hmatch, _⟩ := Router.mem_of_find? hf
      rcases h.entries _ hm with ⟨r, hr, hp, _⟩ | ⟨mount, he⟩
      · have hliteral := PathPattern.parse?_plain (plain r hr) hp
        dsimp only at hliteral
        rw [hliteral, PathPattern.match?_literal] at hmatch
        by_cases hpath : r.path.toList = path.toList
        · exact absurd (String.toList_inj.1 hpath) (undeclared r hr)
        · simp [hpath] at hmatch
      · exact absurd he (unserved _ hm mount)

end IsCompiled

/-- A request leads to what the application has for its verb and path. -/
theorem IsBuilt.target?_of_decides (h : app.IsBuilt settings server)
    (plain : ∀ r ∈ app.routes.resolve, r.path.toList.any PathPart.isBrace = false)
    (unserved : settings.staticFiles.isServed = false) (method : request.method = verb.text)
    (decided : app.Decides verb request.uri.path target) :
    server.target? request = some (target, ∅) := by
  have hverb : Verb.answering? request.method = some verb := by
    rw [method]
    cases verb <;> rfl
  unfold Server.target?
  cases decided with
  | @route r declared same_verb same_path =>
      have hf := h.router.find?_of_declared declared (plain r declared)
      have hl := h.router.lookup_eq_targetOf declared
      rw [same_path, same_verb] at hl
      rw [same_path] at hf
      simp only [hf, endpointOf, Endpoint.target?_eq, hverb, Option.bind_some, hl,
        Option.getD_some]
      rw [targetOf, same_path]
      rfl
  | @methodNotAllowed r declared same_path other_verbs =>
      have hf := h.router.find?_of_declared declared (plain r declared)
      rw [same_path] at hf
      have hl : ((app.routes.resolve.filter (·.path == request.uri.path)).map fun r =>
          (r.verb, app.targetOf r)).lookup verb = none := by
        cases hl : ((app.routes.resolve.filter (·.path == request.uri.path)).map fun r =>
            (r.verb, app.targetOf r)).lookup verb with
        | none => rfl
        | some found =>
            obtain ⟨other, ho, hpath, hother, _⟩ := exists_of_lookup hl
            exact absurd hother (other_verbs other ho hpath)
      simp only [hf, endpointOf, Endpoint.target?_eq, hverb, Option.bind_some, hl,
        Option.getD_none]
      rfl
  | notFound other_paths =>
      have hfiles : ∀ entry ∈ server.router.entries, ∀ mount, entry.2 ≠ .files mount := by
        intro entry hm mount he
        have hmount := h.files entry hm mount he
        simp [mount?, unserved] at hmount
      rw [h.router.find?_of_undeclared plain hfiles other_paths, h.notFound]

/-- There is exactly one target for the verb of a request and its path without slashes at the
end. Its chain answers the request, on a fresh context without parameters; what it drafts is
sent as it is, but for headers that say which methods are allowed and which request is
answered. -/
theorem handle_of_decides (built : (app.build settings).run s₀ = (.ok server, s₁))
    (plain : ∀ r ∈ app.routes.resolve, r.path.toList.any PathPart.isBrace = false)
    (unserved : settings.staticFiles.isServed = false) (method : request.method = verb.text)
    (fits : request.body.length ≤ settings.limits.bodySize) :
    ∃ target, (∀ other, app.Decides verb request.uri.trimmed.path other ↔ other = target) ∧
      ∃ added : Headers, (∀ header ∈ added, header.1 = "allow" ∨ header.1 = Server.idHeader) ∧
        ∀ state, (server.handle around request).run state =
          Prod.map (Except.map (Server.completed added)) id
            (target.answer server.panicHandler (target.start server.site around.now ∅
              (Server.arriving around request)) state) := by
  have hb := isBuilt_of_build built
  have hleads : ∀ {found : Target S}, app.Decides verb request.uri.trimmed.path found →
      server.target? (Server.arriving around request) = some (found, ∅) := by
    intro found hd
    exact hb.target?_of_decides plain unserved method hd
  obtain ⟨target, hd⟩ := app.exists_decides verb request.uri.trimmed.path
  refine ⟨target, ?_, ?_⟩
  · intro other
    constructor
    · intro ho
      have hsame := (hleads ho).symm.trans (hleads hd)
      cases hsame
      rfl
    · rintro rfl
      exact hd
  · obtain ⟨added, hadded, hhandle⟩ := Server.handle_of_target? method (hleads hd)
    refine ⟨added, hadded, ?_⟩
    intro state
    have hsize : (Server.arriving around request).body.length ≤
        server.site.settings.limits.bodySize := by
      rw [hb.site.1]
      exact fits
    rw [hhandle, Target.dispatch_of_fits hsize]
    rfl

/-! ## Two verbs at one path -/

def item (verb : Verb) (text : String) : Route (Middleware (List String)) (Action (List String)) :=
  ⟨verb, "/items", text, fun c => do
    modify (· ++ [text])
    return c.writeText c.status text, []⟩

def stall : App (List String) :=
  { routes := .mk "" "" [] [item .get "list", item .post "create"] [],
    middlewares := [note "global"] }

def calling (verb : Verb) (path : String) : Request := { method := verb.text, uri := { path } }

/-- Items are created behind the middleware; a verb and a path that were not declared get the two
other answers, and the middleware is not asked. -/
theorem stall_decides :
    ∃ server, (stall.build {}).run [] = (.ok server, []) ∧
      ((server.handle ⟨1000, "a", {}⟩ (calling .post "//items/")).run []).2 =
        ["global", "create"] ∧
      stall.Decides .put "/items" ⟨"/items", [], defaultMethodNotAllowed, 405⟩ ∧
      ((server.handle ⟨1000, "a", {}⟩ (calling .put "/items")).run []).2 = [] ∧
      stall.Decides .get "/items/7" ⟨"none", [], defaultNotFound, 404⟩ ∧
      ((server.handle ⟨1000, "a", {}⟩ (calling .get "/items/7")).run []).2 = [] := by
  obtain ⟨server, hb⟩ : ∃ server, (stall.build {}).run [] = (.ok server, []) := ⟨_, rfl⟩
  have hresolve : stall.routes.resolve = [item .get "list", item .post "create"] := rfl
  have hplain : ∀ r ∈ stall.routes.resolve, r.path.toList.any PathPart.isBrace = false := by
    rw [hresolve]
    decide
  have hpost : stall.Decides .post "/items" (stall.targetOf (item .post "create")) :=
    .route (by simp [hresolve]) rfl rfl
  have hput : stall.Decides .put "/items" ⟨"/items", [], defaultMethodNotAllowed, 405⟩ :=
    .methodNotAllowed (r := item .get "list") (by simp [hresolve]) rfl
      (by simp [hresolve, item])
  have hmissing : stall.Decides .get "/items/7" ⟨"none", [], defaultNotFound, 404⟩ :=
    .notFound (by simp [hresolve, item])
  refine ⟨server, hb, ?_, hput, ?_, hmissing, ?_⟩
  · obtain ⟨target, hiff, added, _, hhandle⟩ := @handle_of_decides _ stall {} server _ _ .post
      ⟨1000, "a", {}⟩ (calling .post "//items/") hb hplain rfl rfl (by decide)
    rw [hhandle, ← (hiff _).1 hpost]
    rfl
  · obtain ⟨target, hiff, added, _, hhandle⟩ := @handle_of_decides _ stall {} server _ _ .put
      ⟨1000, "a", {}⟩ (calling .put "/items") hb hplain rfl rfl (by decide)
    rw [hhandle, ← (hiff _).1 hput]
    rfl
  · obtain ⟨target, hiff, added, _, hhandle⟩ := @handle_of_decides _ stall {} server _ _ .get
      ⟨1000, "a", {}⟩ (calling .get "/items/7") hb hplain rfl rfl (by decide)
    rw [hhandle, ← (hiff _).1 hmissing]
    rfl

end App

end Formwork
