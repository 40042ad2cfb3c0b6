import Formwork.Proofs.Http.Draft
import Formwork.Proofs.Http.Drafting

/-! # Code that only looks names up

All that code can learn from the table of a site is which path a name stands for. Two sites may
hold the same names in different orders; code for which that makes no difference is extensional.
A server whose parts are extensional answers every request in the same way on both sites
(`Server.handle_resited`).
-/

namespace Formwork

variable {S α β γ δ : Type}

/-! ## Effects that do the same -/

/-- Two outcomes: the same panic, or related results, and the same state in either case. -/
inductive Outcome.Related (R : α → β → Prop) : Except Panic α × S → Except Panic β × S → Prop
  | ok {a : α} {b : β} {later : S} (related : R a b) : Related R (.ok a, later) (.ok b, later)
  | panic {p : Panic} {later : S} : Related R (.error p, later) (.error p, later)

/-- Two effects whose outcomes are related in every state. -/
def Effect.Related (R : α → β → Prop) (x : Effect S α) (y : Effect S β) : Prop :=
  ∀ state, Outcome.Related R (x.run state) (y.run state)

namespace Effect

variable {R : α → β → Prop} {Q : γ → δ → Prop}

theorem related_pure {a : α} {b : β} (h : R a b) :
    Related R (pure a : Effect S α) (pure b : Effect S β) := fun _ => .ok h

theorem related_refl {R : α → α → Prop} (h : ∀ a, R a a) (x : Effect S α) : Related R x x := by
  intro state
  cases x.run state with
  | mk result later =>
      cases result with
      | ok a => exact .ok (h a)
      | error p => exact .panic

theorem Related.bind {x : Effect S α} {y : Effect S β} {f : α → Effect S γ} {g : β → Effect S δ}
    (h : Related R x y) (hf : ∀ a b, R a b → Related Q (f a) (g b)) :
    Related Q (x >>= f) (y >>= g) := by
  intro state
  have hs := h state
  rw [run_bind, run_bind]
  generalize x.run state = left at hs ⊢
  generalize y.run state = right at hs ⊢
  cases hs with
  | ok related => exact hf _ _ related _
  | panic => exact .panic

end Effect

/-! ## Sites and contexts -/

/-- The sites differ at most in the order in which their tables hold the names. -/
structure Site.Alike (s t : Site) : Prop where
  settings : s.settings = t.settings
  store : s.store = t.store
  routes : ∀ name params, s.routes.urlFor name params = t.routes.urlFor name params

/-- The contexts differ at most in that their sites are alike. -/
inductive Context.Alike (c : Context) : Context → Prop
  | resited {site : Site} (alike : c.site.Alike site) : Alike c { c with site }

namespace Context

variable {c d : Context}

theorem Alike.respond (h : c.Alike d) : c.respond = d.respond := by
  cases h with
  | resited alike => simp only [Context.respond, alike.store]

theorem Alike.recovering (h : c.Alike d) :
    (c.fresh.withStatus 500).Alike (d.fresh.withStatus 500) := by
  cases h with
  | resited alike => exact .resited alike

theorem Alike.writeText (h : c.Alike d) (status : Nat) (text : String) :
    (c.writeText status text).Alike (d.writeText status text) := by
  cases h with
  | resited alike => exact .resited alike

/-- Contexts that are alike send the client to the same place. -/
theorem Alike.redirectToRoute (h : c.Alike d) (name : String) (params : List (String × String))
    (status : Nat) :
    ((redirectToRoute name params status).run c).1 =
        ((redirectToRoute name params status).run d).1 ∧
      ((redirectToRoute name params status).run c).2.Alike
        ((redirectToRoute name params status).run d).2 := by
  cases h with
  | @resited site alike =>
      have hurl : { c with site }.urlFor name params = c.urlFor name params :=
        (alike.routes name params).symm
      rw [run_redirectToRoute, run_redirectToRoute, hurl]
      cases c.urlFor name params with
      | error e => exact ⟨rfl, .resited alike⟩
      | ok url =>
          dsimp only
          rw [run_redirect, run_redirect]
          split
          · exact ⟨rfl, .resited alike⟩
          · exact ⟨rfl, .resited alike⟩

end Context

/-! ## Extensional code -/

/-- On contexts that are alike the action does the same. -/
def Action.IsExtensional (action : Action S) : Prop :=
  ∀ c d, c.Alike d → Effect.Related Context.Alike (action c) (action d)

/-- On contexts that are alike the middleware does the same. -/
def Middleware.IsExtensional (middleware : Middleware S) : Prop :=
  ∀ c d, c.Alike d →
    Effect.Related (fun x y => x.1.Alike y.1 ∧ x.2 = y.2) (middleware c) (middleware d)

/-- On contexts that are alike the handler drafts the same. -/
def PanicHandler.IsExtensional (handler : PanicHandler S) : Prop :=
  ∀ message, Action.IsExtensional (handler message)

/-- A chain of extensional steps. -/
structure Target.IsExtensional (target : Target S) : Prop where
  middlewares : ∀ m ∈ target.middlewares, Middleware.IsExtensional m
  action : Action.IsExtensional target.action

/-- Every part of the application is extensional. -/
structure App.IsExtensional (app : App S) : Prop where
  middlewares : ∀ m ∈ app.middlewares, Middleware.IsExtensional m
  routes : ∀ r ∈ app.routes.resolve,
    (∀ m ∈ r.middlewares, Middleware.IsExtensional m) ∧ Action.IsExtensional r.action
  notFound : ∀ action ∈ app.notFound, Action.IsExtensional action
  methodNotAllowed : ∀ action ∈ app.methodNotAllowed, Action.IsExtensional action
  panicHandler : ∀ handler ∈ app.panicHandler, PanicHandler.IsExtensional handler

namespace Target

variable {target : Target S} {handler : Option (PanicHandler S)} {s t : Site}

theorem isExtensional_runChain {action : Action S} {middlewares : List (Middleware S)}
    (hm : ∀ m ∈ middlewares, Middleware.IsExtensional m) (ha : Action.IsExtensional action) :
    Action.IsExtensional (runChain action middlewares) := by
  induction middlewares with
  | nil => exact ha
  | cons m ms ih =>
      rw [List.forall_mem_cons] at hm
      intro c d h
      apply (hm.1 c d h).bind
      rintro ⟨c, flow⟩ ⟨d, _⟩ ⟨hcd, rfl⟩
      cases flow with
      | next => exact ih hm.2 c d hcd
      | stop => exact Effect.related_pure hcd

theorem recover_congr (hh : ∀ h ∈ handler, PanicHandler.IsExtensional h) {c d : Context}
    (h : c.Alike d) (panic : Panic) : recover handler c panic = recover handler d panic := by
  cases handler with
  | none => rfl
  | some handler =>
      funext state
      have hs := hh handler rfl panic.message _ _ h.recovering state
      simp only [recover]
      generalize (handler panic.message (c.fresh.withStatus 500)).run state = left at hs ⊢
      generalize (handler panic.message (d.fresh.withStatus 500)).run state = right at hs ⊢
      cases hs with
      | ok related => exact Prod.ext related.respond rfl
      | panic => rfl

/-- On sites that are alike, an extensional target answers in the same way. -/
theorem dispatch_congr (ht : target.IsExtensional)
    (hh : ∀ h ∈ handler, PanicHandler.IsExtensional h) (hs : s.Alike t) (now : Int)
    (params : Dict String) (request : Request) :
    target.dispatch handler s now params request =
      target.dispatch handler t now params request := by
  have hstart : (target.start s now params request).Alike (target.start t now params request) :=
    .resited hs
  funext state
  have hchain := isExtensional_runChain ht.middlewares ht.action _ _ hstart state
  change (target.dispatch handler s now params request).run state =
    (target.dispatch handler t now params request).run state
  rw [run_dispatch, run_dispatch, hs.settings]
  split
  · rfl
  · generalize (runChain target.action target.middlewares
      (target.start s now params request)).run state = left at hchain ⊢
    generalize (runChain target.action target.middlewares
      (target.start t now params request)).run state = right at hchain ⊢
    cases hchain with
    | ok related => exact Prod.ext related.respond rfl
    | panic => exact congrFun (recover_congr hh hstart _) _

end Target

namespace Server

variable {server : Server S} {site : Site} {around : Surroundings} {request : Request}

/-- A server that names are looked up on, in a table that may hold them in another order. -/
theorem handle_resited (alike : site.Alike server.site)
    (targets : ∀ request target params, server.target? request = some (target, params) →
      target.IsExtensional)
    (handler : ∀ h ∈ server.panicHandler, PanicHandler.IsExtensional h) :
    { server with site }.handle around request = server.handle around request := by
  have hroute : ∀ request, { server with site }.route around request =
      server.route around request := by
    intro request
    have htargets := targets request
    unfold target? at htargets
    unfold route
    cases hf : server.router.find? request.uri.path with
    | none =>
        rw [hf] at htargets
        exact Target.dispatch_congr (htargets _ _ rfl) handler alike _ _ _
    | some hit =>
        obtain ⟨values, endpoint⟩ := hit
        rw [hf] at htargets
        cases endpoint with
        | files mount => simp only [alike.settings]
        | methods targets otherwise =>
            dsimp only at htargets ⊢
            have hdispatch := Target.dispatch_congr (htargets _ _ rfl) handler alike around.now
              (decodedParams values) request
            cases ht : Endpoint.target? targets request.method with
            | some found =>
                rw [ht] at hdispatch
                exact hdispatch
            | none =>
                rw [ht, Option.getD_none] at hdispatch
                simp only [hdispatch]
  simp only [handle, hroute]

end Server

namespace App

variable {app : App S} {settings : Settings} {server : Server S} {request : Request}
  {target : Target S} {params : Dict String}

/-- What a request leads to: a route, or one of the two answers to all others. -/
theorem IsBuilt.target?_cases (h : app.IsBuilt settings server)
    (ht : server.target? request = some (target, params)) :
    (∃ r ∈ app.routes.resolve, target = app.targetOf r) ∨
      (∃ path, target = ⟨path, [], app.methodNotAllowed.getD defaultMethodNotAllowed, 405⟩) ∨
        target = ⟨"none", [], app.notFound.getD defaultNotFound, 404⟩ := by
  unfold Server.target? at ht
  split at ht
  · cases ht
    exact Or.inr (Or.inr h.notFound)
  · cases ht
  · rename_i values targets otherwise hf
    obtain ⟨p, hm, _, _⟩ := Router.mem_of_find? hf
    rcases h.router.entries _ hm with ⟨r, _, _, he⟩ | ⟨mount, he⟩
    · cases he
      cases ht
      rw [Endpoint.target?_eq]
      cases hl : (Verb.answering? request.method).bind fun verb =>
          ((app.routes.resolve.filter (·.path == r.path)).map fun r =>
            (r.verb, app.targetOf r)).lookup verb with
      | none => exact Or.inr (Or.inl ⟨r.path, rfl⟩)
      | some found =>
          obtain ⟨verb, _, hl⟩ := Option.bind_eq_some_iff.1 hl
          obtain ⟨other, ho, _, _, rfl⟩ := exists_of_lookup hl
          exact Or.inl ⟨other, ho, rfl⟩
    · cases he

theorem isExtensional_default :
    Action.IsExtensional (@defaultNotFound S) ∧ Action.IsExtensional (@defaultMethodNotAllowed S) :=
  ⟨fun _ _ h => Effect.related_pure (h.writeText _ _), fun _ _ h =>
    Effect.related_pure (h.writeText _ _)⟩

theorem isExtensional_getD {action : Option (Action S)} {default : Action S}
    (h : ∀ a ∈ action, Action.IsExtensional a) (hd : Action.IsExtensional default) :
    Action.IsExtensional (action.getD default) := by
  cases action with
  | none => exact hd
  | some a => exact h a rfl

theorem IsBuilt.isExtensional (h : app.IsBuilt settings server) (he : app.IsExtensional)
    (ht : server.target? request = some (target, params)) : target.IsExtensional := by
  rcases h.target?_cases ht with ⟨r, hr, rfl⟩ | ⟨path, rfl⟩ | rfl
  · obtain ⟨hm, ha⟩ := he.routes r hr
    refine ⟨?_, ha⟩
    intro m hmem
    rcases List.mem_append.1 hmem with hmem | hmem
    · exact he.middlewares m hmem
    · exact hm m hmem
  · exact ⟨by simp, isExtensional_getD he.methodNotAllowed isExtensional_default.2⟩
  · exact ⟨by simp, isExtensional_getD he.notFound isExtensional_default.1⟩

end App

end Formwork
