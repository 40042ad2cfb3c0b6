import Formwork.Proofs.Http.Alike
import Formwork.Proofs.Http.Building
import Formwork.Proofs.Http.Decision

/-! # The order of declarations

Routes of a group may be declared in any order, and so may groups beside each other: the
resolved routes are the same but for their order (`Group.Rearranges.perm_resolve`), and building
asks which routes there are. So both trees can be built or none, and both servers lead every
request to the same target. The order remains in the header that lists the methods of a path,
and nowhere else (`App.build_rearranged`).
-/

namespace Formwork

/-! ## Responses but for the order of methods -/

/-- The headers are the same, or list the same methods. -/
inductive Header.Alike : String × Bytes → String × Bytes → Prop
  | same {header : String × Bytes} : Alike header header
  | allowed {methods others : List String} (perm : methods.Perm others) :
      Alike ("allow", Utf8.encode (Text.join "," methods))
        ("allow", Utf8.encode (Text.join "," others))

/-- The responses are the same but for the order of the methods that they allow. -/
structure Response.Alike (r s : Response) : Prop where
  status : r.status = s.status
  headers : List.Forall₂ Header.Alike r.headers s.headers
  body : r.body = s.body

theorem Header.Alike.name_eq {x y : String × Bytes} (h : Header.Alike x y) : x.1 = y.1 := by
  cases h <;> rfl

namespace Response

variable {r s : Response}

theorem Alike.refl (r : Response) : r.Alike r :=
  ⟨rfl, List.forall₂_same.2 fun _ _ => .same, rfl⟩

theorem contains_congr {headers others : Headers} (h : List.Forall₂ Header.Alike headers others)
    (name : String) : headers.contains name = others.contains name := by
  induction h with
  | nil => rfl
  | cons head _ ih =>
      simp only [Headers.contains, List.any_cons] at ih ⊢
      rw [head.name_eq, ih]

theorem Alike.withDefault (h : r.Alike s) {name : String} {value other : Bytes}
    (hv : Header.Alike (name, value) (name, other)) :
    (Server.withDefault r name value).Alike (Server.withDefault s name other) := by
  unfold Server.withDefault
  rw [contains_congr h.headers name]
  split
  · exact h
  · refine ⟨h.status, ?_, h.body⟩
    have hfilter : ∀ ⦃x y : String × Bytes⦄, Header.Alike x y →
        ((x.1 != name) = true ↔ (y.1 != name) = true) := by
      intro x y hxy
      rw [hxy.name_eq]
    exact List.rel_append (List.rel_filter hfilter h.headers) (.cons hv .nil)

theorem Alike.trimBody (h : r.Alike s) (method : String) :
    (Server.trimBody method r).Alike (Server.trimBody method s) := by
  unfold Server.trimBody Response.isSuccess
  rw [h.status]
  split
  · exact ⟨rfl, h.headers, rfl⟩
  · exact h

end Response

variable {S : Type}

/-! ## Servers but for the order of targets -/

/-- The same target for every verb, and for all others; or the same files. -/
inductive Endpoint.Alike : Endpoint S → Endpoint S → Prop
  | methods {targets others : List (Verb × Target S)} {otherwise : Target S}
      (perm : targets.Perm others) (distinct : (targets.map Prod.fst).Nodup) :
      Alike (.methods targets otherwise) (.methods others otherwise)
  | files {mount : String} : Alike (.files mount) (.files mount)

namespace Endpoint

theorem Alike.symm {e f : Endpoint S} (h : e.Alike f) : f.Alike e := by
  cases h with
  | methods perm distinct => exact .methods perm.symm ((perm.map _).nodup_iff.1 distinct)
  | files => exact .files

end Endpoint

/-- The servers lead every path to the same place, and have the same site, but for the order of
targets and of names. -/
structure Server.Alike (server other : Server S) : Prop where
  site : server.site.Alike other.site
  router : ∀ path, Option.Rel (fun x y => x.1 = y.1 ∧ x.2.Alike y.2) (server.router.find? path)
    (other.router.find? path)
  notFound : server.notFound = other.notFound
  panicHandler : server.panicHandler = other.panicHandler

namespace Server

variable {server other : Server S} {around : Surroundings}

theorem Alike.route (h : server.Alike other) (request : Request) :
    Effect.Related Response.Alike (server.route around request)
      ({ other with site := server.site }.route around request) := by
  have hfind := h.router request.uri.path
  unfold Server.route
  rw [← h.notFound, ← h.panicHandler]
  dsimp only
  generalize server.router.find? request.uri.path = left at hfind ⊢
  generalize other.router.find? request.uri.path = right at hfind ⊢
  cases hfind with
  | none => exact Effect.related_refl Response.Alike.refl _
  | @some hit found hrel =>
      obtain ⟨values, endpoint⟩ := hit
      obtain ⟨_, place⟩ := found
      obtain ⟨rfl, halike⟩ := hrel
      cases halike with
      | files => exact Effect.related_refl Response.Alike.refl _
      | @methods targets others otherwise perm distinct =>
          have htarget : Endpoint.target? others request.method =
              Endpoint.target? targets request.method := by
            rw [Endpoint.target?_eq, Endpoint.target?_eq]
            simp only [Pairs.lookup_perm distinct perm.symm]
          dsimp only
          rw [htarget]
          cases Endpoint.target? targets request.method with
          | some target => exact Effect.related_refl Response.Alike.refl _
          | none =>
              apply (Effect.related_refl Response.Alike.refl _).bind
              intro r s hrs
              exact Effect.related_pure (hrs.withDefault (.allowed (perm.map _)))

/-- With the same names to look up, the servers answer alike, whatever their code does. -/
theorem Alike.handle (h : server.Alike other) (request : Request) :
    Effect.Related Response.Alike (server.handle around request)
      ({ other with site := server.site }.handle around request) := by
  unfold Server.handle
  apply (h.route _).bind
  intro r s hrs
  exact Effect.related_pure ((hrs.trimBody _).withDefault .same)

end Server

namespace App

variable {app : App S} {settings : Settings} {server : Server S} {state later : S}
  {routes others : List (Route (Middleware S) (Action S))} {router : Router (Endpoint S)}

/-! ## Building from routes in another order -/

theorem perm_patternTexts (hp : routes.Perm others) :
    (patternTexts settings routes).Perm (patternTexts settings others) := by
  apply List.Perm.append_right
  refine (List.perm_ext_iff_of_nodup (nodup_eraseDups _) (nodup_eraseDups _)).2 ?_
  intro path
  rw [List.mem_eraseDups, List.mem_eraseDups]
  exact (hp.map _).mem_iff

theorem endpointOf_alike (hp : routes.Perm others)
    (distinct : (routes.map fun r => (r.path, r.verb)).Nodup) (path : String) :
    (app.endpointOf routes path).Alike (app.endpointOf others path) :=
  .methods ((hp.filter _).map _) (nodup_verbs distinct path)

theorem placements_alike (hp : routes.Perm others)
    (distinct : (routes.map fun r => (r.path, r.verb)).Nodup) :
    ∀ item ∈ app.placements settings routes, ∃ endpoint,
      (item.1, endpoint) ∈ app.placements settings others ∧ item.2.Alike endpoint := by
  intro item hm
  rcases mem_placements_iff.1 hm with ⟨r, hr, rfl⟩ | ⟨mount, hmount, path, hpath, rfl⟩
  · exact ⟨_, mem_placements_iff.2 (Or.inl ⟨r, hp.mem_iff.1 hr, rfl⟩),
      endpointOf_alike hp distinct r.path⟩
  · exact ⟨_, mem_placements_iff.2 (Or.inr ⟨mount, hmount, path, hpath, rfl⟩), .files⟩

theorem entries_alike {next : Router (Endpoint S)} (hp : routes.Perm others)
    (distinct : (routes.map fun r => (r.path, r.verb)).Nodup)
    (h : app.compile settings routes = .ok router) (hn : app.compile settings others = .ok next) :
    ∀ entry ∈ router.entries, ∃ endpoint, (entry.1, endpoint) ∈ next.entries ∧
      entry.2.Alike endpoint := by
  intro entry hm
  obtain ⟨item, hitem, hparse, he⟩ := (mem_entries_iff h).1 hm
  obtain ⟨endpoint, hplaced, halike⟩ := placements_alike hp distinct item hitem
  rw [he]
  exact ⟨endpoint, (mem_entries_iff hn).2 ⟨_, hplaced, hparse, rfl⟩, halike⟩

theorem find?_alike {next : Router (Endpoint S)} (hp : routes.Perm others)
    (h : app.compile settings routes = .ok router) (hn : app.compile settings others = .ok next)
    (path : String) :
    Option.Rel (fun x y => x.1 = y.1 ∧ x.2.Alike y.2) (router.find? path) (next.find? path) := by
  have hr := (entries_of_compile h).1
  have hother := (entries_of_compile hn).1
  apply Router.find?_rel hr.apart hother.apart
  · exact entries_alike hp hr.distinct h hn
  · intro entry hm
    obtain ⟨endpoint, hmem, halike⟩ := entries_alike hp.symm hother.distinct hn h entry hm
    exact ⟨endpoint, hmem, halike.symm⟩

theorem IsExtensional.rearranged {other : Group (Middleware S) (Action S)} (h : app.IsExtensional)
    (hp : app.routes.resolve.Perm other.resolve) :
    IsExtensional { app with routes := other } where
  middlewares := h.middlewares
  routes r hr := h.routes r (hp.mem_iff.2 hr)
  notFound := h.notFound
  methodNotAllowed := h.methodNotAllowed
  panicHandler := h.panicHandler

theorem alike_of_build {other : Group (Middleware S) (Action S)} {next : Server S} {last : S}
    (hp : app.routes.resolve.Perm other.resolve)
    (built : (app.build settings).run state = (.ok server, later))
    (rebuilt : ({ app with routes := other }.build settings).run state = (.ok next, last)) :
    server.Alike next := by
  have hb := isBuilt_of_build built
  have hr := isBuilt_of_build rebuilt
  refine ⟨⟨?_, ?_, ?_⟩, ?_, ?_, ?_⟩
  · rw [hb.site.1, hr.site.1]
  · rw [hb.site.2, hr.site.2]
  · exact RouteTable.urlFor_congr (RouteTable.same_of_perm hp hb.routes hr.routes)
  · exact find?_alike hp (compile_of_build built) (compile_of_build rebuilt)
  · rw [hb.notFound, hr.notFound]
  · rw [hb.panicHandler, hr.panicHandler]

/-- Routes and groups in another order: both trees can be built or none, and then names lead to
the same paths and every request has the same response, but for the order of the methods in an
allow header. This holds of all code if names are looked up in one table, and of code to which
the order of a table makes no difference even if each server looks them up in its own. -/
theorem build_rearranged {other : Group (Middleware S) (Action S)}
    (h : app.routes.Rearranges other) (settings : Settings) (state : S) :
    ((∃ server, ((app.build settings).run state).1 = .ok server) ↔
      ∃ server, (({ app with routes := other }.build settings).run state).1 = .ok server) ∧
    ∀ server next later last, (app.build settings).run state = (.ok server, later) →
      ({ app with routes := other }.build settings).run state = (.ok next, last) →
        later = last ∧
        (∀ name params, server.site.routes.urlFor name params =
          next.site.routes.urlFor name params) ∧
        ∀ around request,
          Effect.Related Response.Alike (server.handle around request)
            ({ next with site := server.site }.handle around request) ∧
          (app.IsExtensional → Effect.Related Response.Alike (server.handle around request)
            (next.handle around request)) := by
  have hp := h.perm_resolve
  constructor
  · rw [exists_build_iff, exists_build_iff]
    refine and_congr_right fun _ => ?_
    constructor
    · rintro ⟨hchecked, hcoexist⟩
      exact ⟨hchecked.perm hp, hcoexist.perm (perm_patternTexts hp)⟩
    · rintro ⟨hchecked, hcoexist⟩
      exact ⟨hchecked.perm hp.symm, hcoexist.perm (perm_patternTexts hp.symm)⟩
  · intro server next later last built rebuilt
    have halike := alike_of_build hp built rebuilt
    have hstates := (assemble_of_build built).2.symm.trans (assemble_of_build rebuilt).2
    refine ⟨hstates, halike.site.routes, ?_⟩
    intro around request
    have hone := @Server.Alike.handle S server next around halike request
    refine ⟨hone, ?_⟩
    intro hextensional
    have hrebuilt := isBuilt_of_build rebuilt
    have hother := hextensional.rearranged hp
    rw [Server.handle_resited halike.site (fun _ _ _ ht => hrebuilt.isExtensional hother ht)
      (by rw [hrebuilt.panicHandler]; exact hother.panicHandler)] at hone
    exact hone

/-! ## A fair declared twice -/

def look : Route (Middleware Unit) (Action Unit) :=
  ⟨.get, "/stalls", "stalls", fun c => return c.writeText 200 "stalls", []⟩

/-- Whoever has registered is sent to the route with the name of the first. -/
def register : Route (Middleware Unit) (Action Unit) :=
  ⟨.post, "/stalls", "", fun c => return ((Context.redirectToRoute "stalls" [] 303).run c).2, []⟩

def corner (path : String) : Group (Middleware Unit) (Action Unit) :=
  .mk path "" [] [⟨.get, "/map", "", fun c => return c.writeText 200 path, []⟩] []

def fair : App Unit :=
  { routes := .mk "" "" [] [look, register] [corner "/food", corner "/games"] }

def turned : Group (Middleware Unit) (Action Unit) :=
  .mk "" "" [] [register, look] [corner "/games", corner "/food"]

theorem rearranges_turned : fair.routes.Rearranges turned :=
  .trans (.routes (.swap ..)) (.groups (.swap ..))

theorem isExtensional_fair : fair.IsExtensional := by
  have hresolve : fair.routes.resolve = [look, register,
      ⟨.get, "/food/map", "", fun c => return c.writeText 200 "/food", []⟩,
      ⟨.get, "/games/map", "", fun c => return c.writeText 200 "/games", []⟩] := rfl
  have hwrite : ∀ text, Action.IsExtensional (S := Unit) fun c => return c.writeText 200 text := by
    intro text c d h
    exact Effect.related_pure (h.writeText 200 text)
  refine ⟨nofun, ?_, nofun, nofun, nofun⟩
  rw [hresolve]
  simp only [List.forall_mem_cons]
  refine ⟨⟨nofun, hwrite _⟩, ⟨nofun, ?_⟩, ⟨nofun, hwrite _⟩, ⟨nofun, hwrite _⟩, nofun⟩
  intro c d h
  exact Effect.related_pure (h.redirectToRoute "stalls" [] 303).2

/-- The fair is built in both orders, with one path for the name of the stalls; each server
answers as the other, and each lists the methods of the stalls in its own order. -/
theorem fair_turned :
    ∃ server next, (fair.build {}).run () = (.ok server, ()) ∧
      ({ fair with routes := turned }.build {}).run () = (.ok next, ()) ∧
      server.site.routes.urlFor "stalls" [] = next.site.routes.urlFor "stalls" [] ∧
      (∀ around request, Effect.Related Response.Alike (server.handle around request)
        (next.handle around request)) ∧
      ((server.handle ⟨1000, "a", {}⟩ (calling .put "/stalls")).run ()).1.map
        (·.headers.get? "allow") = .ok (some (Utf8.encode "GET,HEAD,POST")) ∧
      ((next.handle ⟨1000, "a", {}⟩ (calling .put "/stalls")).run ()).1.map
        (·.headers.get? "allow") = .ok (some (Utf8.encode "POST,GET,HEAD")) := by
  obtain ⟨server, built, hallow⟩ : ∃ server, (fair.build {}).run () = (.ok server, ()) ∧
      ((server.handle ⟨1000, "a", {}⟩ (calling .put "/stalls")).run ()).1.map
        (·.headers.get? "allow") = .ok (some (Utf8.encode "GET,HEAD,POST")) := ⟨_, rfl, rfl⟩
  obtain ⟨next, rebuilt, hnext⟩ : ∃ next,
      ({ fair with routes := turned }.build {}).run () = (.ok next, ()) ∧
      ((next.handle ⟨1000, "a", {}⟩ (calling .put "/stalls")).run ()).1.map
        (·.headers.get? "allow") = .ok (some (Utf8.encode "POST,GET,HEAD")) := ⟨_, rfl, rfl⟩
  obtain ⟨_, hurl, hanswers⟩ := (build_rearranged rearranges_turned {} ()).2 _ _ _ _ built rebuilt
  exact ⟨server, next, built, rebuilt, hurl "stalls" [],
    fun around request => (hanswers around request).2 isExtensional_fair, hallow, hnext⟩

end App

end Formwork
