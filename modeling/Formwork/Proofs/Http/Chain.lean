import Formwork.Proofs.Http.Draft
import Formwork.Proofs.Route.Tree

/-! # The order of middlewares

The chain of a route are the middlewares of the application, those of the groups around
the route from the outermost to the innermost, and its own (`App.target_of_arrival?`,
`App.middlewares_targetOf`). A request runs through them up to the first that stops it,
each with the context and the state that the one in front of it left, and through the
action behind them if none does (`Target.passes_of_runChain`).
-/

namespace Formwork

variable {S : Type}

namespace Target

/-- The middlewares hand on, one after the other, from one context and state to another. -/
inductive Passes : List (Middleware S) → Context → S → Context → S → Prop
  | nil (c : Context) (s : S) : Passes [] c s c s
  | cons {m : Middleware S} {ms : List (Middleware S)} {c d e : Context} {s t u : S}
      (first : (m c).run s = (.ok (d, .next), t)) (rest : Passes ms d t e u) :
      Passes (m :: ms) c s e u

/-- A chain that comes to its end has passed all middlewares, or those in front of the
first that stops. -/
theorem passes_of_runChain {action : Action S} {chain : List (Middleware S)} {c d : Context}
    {s u : S} (h : (runChain action chain c).run s = (.ok d, u)) :
    ∃ passed e t, Passes passed c s e t ∧
      ((∃ m rest, chain = passed ++ m :: rest ∧ (m e).run t = (.ok (d, .stop), u)) ∨
        chain = passed ∧ (action e).run t = (.ok d, u)) := by
  induction chain generalizing c s with
  | nil => exact ⟨[], c, s, .nil c s, .inr ⟨rfl, h⟩⟩
  | cons m ms ih =>
      obtain ⟨⟨next, flow⟩, middle, hfirst, hrest⟩ := run_bind_eq_ok.1 h
      cases flow with
      | stop =>
          cases hrest
          exact ⟨[], c, s, .nil c s, .inl ⟨m, ms, rfl, hfirst⟩⟩
      | next =>
          obtain ⟨passed, e, t, hpasses, hend⟩ := ih hrest
          refine ⟨m :: passed, e, t, .cons hfirst hpasses, ?_⟩
          rcases hend with ⟨stopper, rest, rfl, hstop⟩ | ⟨rfl, hact⟩
          · exact .inl ⟨stopper, rest, rfl, hstop⟩
          · exact .inr ⟨rfl, hact⟩

theorem dispatch_of_runChain {target : Target S} {handler : Option (PanicHandler S)} {site : Site}
    {now : Int} {params : Dict String} {request : Request} {d : Context} {s u : S}
    (fits : request.body.length ≤ site.settings.limits.bodySize)
    (h : (runChain target.action target.middlewares (target.start site now params request)).run s =
      (.ok d, u)) :
    (target.dispatch handler site now params request).run s = (d.respond, u) := by
  rw [run_dispatch, if_neg (show ¬ site.settings.limits.bodySize < _ by omega), h]

end Target

namespace App

variable {app : App S} {settings : Settings} {server : Server S} {s₀ s₁ state : S}
  {around : Surroundings} {request : Request} {target : Target S} {params : Dict String}
  {groups : List (Group (Middleware S) (Action S))} {r : Route (Middleware S) (Action S)}

/-- The target of a request that arrives at a declared route. -/
theorem target_of_arrival? (built : (app.build settings).run s₀ = (.ok server, s₁))
    (declared : app.routes.Declares groups r)
    (arrives : server.arrival? request = some (r.verb, target, params))
    (path : target.route = (r.within (Group.enclosure {} groups)).path) :
    target = app.targetOf (r.within (Group.enclosure {} groups)) := by
  have hrouter := (isBuilt_of_build built).router
  obtain ⟨values, targets, otherwise, hf, _, hl, _⟩ := Server.arrival?_eq_some_iff.1 arrives
  obtain ⟨found, hfound, hverb, rfl, _⟩ := hrouter.exists_of_find? hf hl
  have hr : r.within (Group.enclosure {} groups) ∈ app.routes.resolve :=
    Group.mem_resolve_iff.2 ⟨groups, r, declared, rfl⟩
  have he : found = r.within (Group.enclosure {} groups) :=
    hrouter.eq_of_path_verb hfound hr path (by rw [hverb, Route.verb_within])
  rw [he]

theorem middlewares_targetOf :
    (app.targetOf (r.within (Group.enclosure {} groups))).middlewares =
      app.middlewares ++ groups.flatMap Group.middlewares ++ r.middlewares := by
  show app.middlewares ++ (r.within (Group.enclosure {} groups)).middlewares = _
  rw [Route.middlewares_within, Group.middlewares_enclosure, ← List.append_assoc]
  rfl

theorem action_targetOf :
    (app.targetOf (r.within (Group.enclosure {} groups))).action = r.action := by
  rw [targetOf, Route.action_within]

/-- A request that arrives at a declared route passes the middlewares of the application, of
the groups from the outermost on and of the route, in this order, up to the first that
stops it. If none does, the action is next. What either returns becomes the response. -/
theorem route_passes_in_order (built : (app.build settings).run s₀ = (.ok server, s₁))
    (declared : app.routes.Declares groups r)
    (arrives : server.arrival? (Server.arriving around request) = some (r.verb, target, params))
    (path : target.route = (r.within (Group.enclosure {} groups)).path)
    (fits : request.body.length ≤ settings.limits.bodySize)
    (calm : ∀ panic later, (Target.runChain target.action target.middlewares
      (target.start server.site around.now params (Server.arriving around request))).run state ≠
        (.error panic, later)) :
    ∃ passed c t d u,
      Target.Passes passed (target.start server.site around.now params
        (Server.arriving around request)) state c t ∧
      (server.route around (Server.arriving around request)).run state = (d.respond, u) ∧
      ((∃ m rest, app.middlewares ++ groups.flatMap Group.middlewares ++ r.middlewares =
          passed ++ m :: rest ∧ (m c).run t = (.ok (d, .stop), u)) ∨
        app.middlewares ++ groups.flatMap Group.middlewares ++ r.middlewares = passed ∧
          (r.action c).run t = (.ok d, u)) := by
  have htarget := target_of_arrival? built declared arrives path
  cases hrun : (Target.runChain target.action target.middlewares (target.start server.site
      around.now params (Server.arriving around request))).run state with
  | mk result u =>
      cases result with
      | error panic => exact absurd hrun (calm panic u)
      | ok d =>
          have hresponse : (server.route around (Server.arriving around request)).run state =
              (d.respond, u) := by
            rw [Server.route_of_arrival? arrives]
            exact Target.dispatch_of_runChain (by rw [(isBuilt_of_build built).site.1]; exact fits) hrun
          obtain ⟨passed, c, t, hpasses, hend⟩ := Target.passes_of_runChain hrun
          refine ⟨passed, c, t, d, u, hpasses, hresponse, ?_⟩
          rw [htarget, middlewares_targetOf, action_targetOf] at hend
          exact hend

/-! ## A route in two groups

Whoever sees a request there writes it down. -/

def note (text : String) : Middleware (List String) := fun c => do
  modify (· ++ [text])
  return (c, .next)

def leaf : Route (Middleware (List String)) (Action (List String)) :=
  ⟨.get, "/leaf", "", fun c => do
    modify (· ++ ["leaf"])
    return c.writeText 200 "leaf", [note "route"]⟩

def inner : Group (Middleware (List String)) (Action (List String)) :=
  .mk "/inner" "" [note "inner"] [leaf] []

def outer : Group (Middleware (List String)) (Action (List String)) :=
  .mk "/outer/" "" [note "outer"] [] [inner]

def nested : App (List String) :=
  { routes := .mk "" "" [] [] [outer], middlewares := [note "global"] }

def seeker : Request := { method := "GET", uri := { path := "/outer//inner/leaf" } }

theorem declares_leaf : nested.routes.Declares [nested.routes, outer, inner] leaf :=
  .inside List.mem_cons_self (.inside List.mem_cons_self (.here List.mem_cons_self))

theorem arrival?_leaf :
    ∃ server target d, (nested.build {}).run [] = (.ok server, []) ∧
      server.arrival? (Server.arriving ⟨1000, "a", {}⟩ seeker) = some (.get, target, ∅) ∧
      target.route = (leaf.within (Group.enclosure {} [nested.routes, outer, inner])).path ∧
      (Target.runChain target.action target.middlewares (target.start server.site 1000 ∅
        (Server.arriving ⟨1000, "a", {}⟩ seeker))).run [] =
          (.ok d, ["global", "outer", "inner", "route", "leaf"]) ∧
      ((server.route ⟨1000, "a", {}⟩ (Server.arriving ⟨1000, "a", {}⟩ seeker)).run []).2 =
        ["global", "outer", "inner", "route", "leaf"] :=
  ⟨_, _, _, rfl, rfl, rfl, rfl, rfl⟩

/-- On its way to `leaf`, a request passes the application, both groups and the route. -/
theorem seeker_passes_in_order :
    ∃ server target passed c t d,
      (nested.build {}).run [] = (.ok server, []) ∧
      server.arrival? (Server.arriving ⟨1000, "a", {}⟩ seeker) = some (.get, target, ∅) ∧
      Target.Passes passed (target.start server.site 1000 ∅
        (Server.arriving ⟨1000, "a", {}⟩ seeker)) [] c t ∧
      (server.route ⟨1000, "a", {}⟩ (Server.arriving ⟨1000, "a", {}⟩ seeker)).run [] =
        (d.respond, ["global", "outer", "inner", "route", "leaf"]) ∧
      ((∃ m rest, [note "global", note "outer", note "inner", note "route"] =
          passed ++ m :: rest ∧
            (m c).run t = (.ok (d, .stop), ["global", "outer", "inner", "route", "leaf"])) ∨
        [note "global", note "outer", note "inner", note "route"] = passed ∧
          (leaf.action c).run t = (.ok d, ["global", "outer", "inner", "route", "leaf"])) := by
  obtain ⟨server, target, e, hbuilt, harrives, hpath, hrun, htrace⟩ := arrival?_leaf
  have hcalm : ∀ panic later, (Target.runChain target.action target.middlewares
      (target.start server.site 1000 ∅ (Server.arriving ⟨1000, "a", {}⟩ seeker))).run [] ≠
        (.error panic, later) := by
    intro panic later he
    rw [hrun] at he
    cases he
  obtain ⟨passed, c, t, d, u, hpasses, hresponse, hend⟩ :=
    route_passes_in_order hbuilt declares_leaf harrives hpath (by decide) hcalm
  rw [hresponse] at htrace
  cases htrace
  exact ⟨server, target, passed, c, t, d, hbuilt, harrives, hpasses, hresponse, hend⟩

end App

end Formwork
