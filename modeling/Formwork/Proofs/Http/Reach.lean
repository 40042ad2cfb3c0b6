import Formwork.Proofs.Http.Draft
import Formwork.Proofs.Text.Cut

/-! # Which routes can be reached

A path is changed twice before a request meets a route: a declared path loses a brace of
every two side by side when it is read as a pattern, and a requested one loses the
slashes at its ends. A route without parameters is therefore reached under its own path
exactly if neither changes it (`App.IsCompiled.arrival?_arriving_iff`).
-/

namespace Formwork

namespace Uri

/-- The path of a target is left as it is if it is the root, or has no slash at its end
and one at its front. -/
theorem path_trimmed_eq_iff (u : Uri) :
    u.trimmed.path = u.path ↔
      u.path = "/" ∨ Text.hasTail "/" u.path = false ∧ Text.hasHead "//" u.path = false := by
  unfold trimmed
  by_cases hc : (Text.hasTail "/" u.path || Text.hasHead "//" u.path) = true
  · rw [if_pos hc]
    constructor
    · intro he
      left
      have hl : u.path.toList = '/' :: Cut.trim (· == '/') u.path.toList := by
        conv_lhs => rw [← he]
        simp [Text.trimBy]
      cases ht : Cut.trim (· == '/') u.path.toList with
      | nil =>
          rw [ht] at hl
          exact String.toList_inj.1 hl
      | cons c cs =>
          rw [ht] at hl
          exfalso
          -- what is left between the slashes neither begins nor ends with one
          rcases Bool.or_eq_true_iff.1 hc with htail | hhead
          · obtain ⟨init, hi⟩ := List.isSuffixOf_iff_suffix.1 htail
            have hlast : (c :: cs).getLast? = some '/' := by
              rw [← List.getLast?_cons_cons, ← hl, ← hi]
              exact List.getLast?_concat
            have hslash := Cut.getLast?_trim (ht ▸ hlast)
            simp at hslash
          · obtain ⟨rest, hr⟩ := List.isPrefixOf_iff_prefix.1 hhead
            have hfirst : (c :: cs).head? = some '/' := by
              rw [hl] at hr
              cases hr
              rfl
            have hslash := Cut.head?_trim (ht ▸ hfirst)
            simp at hslash
    · rintro (hroot | ⟨htail, hhead⟩)
      · simp only [hroot]
        decide
      · simp [htail, hhead] at hc
  · rw [if_neg hc]
    simp only [Bool.or_eq_true, not_or, Bool.not_eq_true] at hc
    exact iff_of_true rfl (Or.inr hc)

/-- Slashes are no braces. -/
theorem countP_isBrace_trimmed (u : Uri) :
    u.trimmed.path.toList.countP PathPart.isBrace = u.path.toList.countP PathPart.isBrace := by
  unfold trimmed
  split
  · have hslash : ∀ c : Char, (c == '/') = true → PathPart.isBrace c = false := by
      intro c hc
      rw [eq_of_beq hc]
      rfl
    have htrim := Cut.countP_trim hslash u.path.toList
    have hroot : PathPart.isBrace '/' = false := rfl
    simpa [Text.trimBy, hroot] using htrim
  · rfl

end Uri

/-- Neither reading the path as a pattern nor looking it up changes it. -/
def Route.IsStable (path : String) : Prop :=
  path.toList.any PathPart.isBrace = false ∧
    (path = "/" ∨ Text.hasTail "/" path = false ∧ Text.hasHead "//" path = false)

instance (path : String) : Decidable (Route.IsStable path) := inferInstanceAs (Decidable (_ ∧ _))

namespace App

variable {S : Type} {app : App S} {settings : Settings} {server : Server S} {s₀ s₁ : S}
  {around : Surroundings} {request : Request} {r : Route (Middleware S) (Action S)}
  {routes : List (Route (Middleware S) (Action S))}

theorem answering?_text (verb : Verb) : Verb.answering? verb.text = some verb := by
  cases verb <;> rfl

/-- A route is arrived at where its pattern matches the path that is looked up, and no other
pattern that does precedes it. -/
theorem IsCompiled.arrival?_iff (h : app.IsCompiled routes server.router) (hr : r ∈ routes)
    {p : PathPattern} (hp : PathPattern.parse? r.path = some p)
    (hm : request.method = r.verb.text) {params : Dict String} :
    server.arrival? request = some (r.verb, app.targetOf r, params) ↔
      (∃ values, p.match? request.uri.path.toList = some values ∧ params = decodedParams values) ∧
        ∀ entry ∈ server.router.entries,
          (entry.1.match? request.uri.path.toList).isSome = true → entry.1.precedes p = false := by
  constructor
  · intro harrives
    obtain ⟨values, targets, otherwise, hf, _, hl, hparams⟩ :=
      Server.arrival?_eq_some_iff.1 harrives
    obtain ⟨q, hq, hmatch, hfirst⟩ := Router.mem_of_find? hf
    obtain ⟨found, hfound, hpattern, he⟩ | ⟨mount, he⟩ := h.entries _ hq
    · cases he
      obtain ⟨other, _, hpath, _, ht⟩ := exists_of_lookup hl
      have hsame : found.path = r.path := hpath.symm.trans (congrArg Target.route ht).symm
      rw [hsame, hp] at hpattern
      cases hpattern
      exact ⟨⟨values, hmatch, hparams⟩, hfirst⟩
    · cases he
  · rintro ⟨⟨values, hmatch, rfl⟩, hfirst⟩
    obtain ⟨q, hpattern, hentry⟩ := h.covers r hr
    rw [hp] at hpattern
    cases hpattern
    have hf := (Router.find?_eq_some_iff h.apart).2 ⟨p, hentry, hmatch, hfirst⟩
    refine Server.arrival?_eq_some_iff.2 ⟨_, _, _, hf, ?_, h.lookup_eq_targetOf hr, rfl⟩
    rw [hm]
    exact answering?_text r.verb

/-- A route without parameters is arrived at where its text, read as a pattern, is the path
that is looked up. -/
theorem IsCompiled.arrival?_literal_iff (h : app.IsCompiled routes server.router) (hr : r ∈ routes)
    {cs : List Char} (hp : PathPattern.parse? r.path = some (PathPattern.literal cs))
    (hm : request.method = r.verb.text) {params : Dict String} :
    server.arrival? request = some (r.verb, app.targetOf r, params) ↔
      request.uri.path.toList = cs ∧ params = ∅ := by
  have hfirst : ∀ entry ∈ server.router.entries,
      (entry.1.match? request.uri.path.toList).isSome = true →
        entry.1.precedes (PathPattern.literal cs) = false :=
    fun entry _ _ => PathPattern.precedes_literal entry.1 cs
  rw [h.arrival?_iff hr hp hm, and_iff_left hfirst]
  constructor
  · rintro ⟨values, hmatch, hparams⟩
    rw [PathPattern.match?_literal] at hmatch
    split at hmatch
    · rename_i he
      cases hmatch
      exact ⟨he.symm, hparams⟩
    · cases hmatch
  · rintro ⟨hcs, rfl⟩
    exact ⟨[], by rw [PathPattern.match?_literal, if_pos hcs.symm], rfl⟩

theorem IsCompiled.arrival?_arriving_iff (h : app.IsCompiled routes server.router)
    (hr : r ∈ routes) (hn : ∀ p ∈ PathPattern.parse? r.path, p.names = [])
    (hm : request.method = r.verb.text) (hu : request.uri.path = r.path) {params : Dict String} :
    server.arrival? (Server.arriving around request) = some (r.verb, app.targetOf r, params) ↔
      Route.IsStable r.path ∧ params = ∅ := by
  obtain ⟨p, hp, _⟩ := h.covers r hr
  obtain ⟨cs, rfl⟩ := PathPattern.eq_literal_of_names (hn p hp)
  obtain ⟨hplain, hbraces⟩ := PathPattern.parse?_literal hp
  rw [h.arrival?_literal_iff hr hp (show (Server.arriving around request).method = _ from hm)]
  refine and_congr_left' ?_
  show request.uri.trimmed.path.toList = cs ↔ _
  by_cases hb : r.path.toList.any PathPart.isBrace = true
  · refine iff_of_false ?_ fun hs => Bool.false_ne_true (hs.1.symm.trans hb)
    intro he
    -- the pattern has lost a brace that the path still has
    have hlost := hbraces hb
    rw [← he, Uri.countP_isBrace_trimmed, hu] at hlost
    exact Nat.lt_irrefl _ hlost
  · rw [Bool.not_eq_true] at hb
    rw [hplain hb, String.toList_inj, ← hu, Uri.path_trimmed_eq_iff, hu]
    exact ⟨fun hs => ⟨hb, hs⟩, fun hs => hs.2⟩

/-- A request for the path of a route without parameters, with its verb, arrives at the
route exactly if the path is stable. Then the chain of the route answers it, and the path
is what the name of the route stands for. -/
theorem arrives_iff_isStable (built : (app.build settings).run s₀ = (.ok server, s₁))
    (declared : r ∈ app.routes.resolve) (plain : ∀ p ∈ PathPattern.parse? r.path, p.names = [])
    (method : request.method = r.verb.text) (asked : request.uri.path = r.path) :
    (∀ params, server.arrival? (Server.arriving around request) =
        some (r.verb, app.targetOf r, params) ↔ Route.IsStable r.path ∧ params = ∅) ∧
      (Route.IsStable r.path →
        server.route around (Server.arriving around request) =
          (app.targetOf r).dispatch server.panicHandler server.site around.now ∅
            (Server.arriving around request) ∧
        ∀ values, r.name.isEmpty = false →
          server.site.routes.urlFor r.name values = .ok r.path) := by
  have hb := isBuilt_of_build built
  have hiff := fun params => @IsCompiled.arrival?_arriving_iff S app server around request r _
    hb.router declared plain method asked params
  refine ⟨hiff, fun hs => ⟨?_, ?_⟩⟩
  · exact Server.route_of_arrival? ((hiff ∅).2 ⟨hs, rfl⟩)
  · intro values hname
    have hname := (RouteTable.get?_of_foldlM_add hb.routes).2 r declared hname
    exact RouteTable.urlFor_of_plain hname hs.1 values

/-! ## A group with an index -/

def page (path name : String) : Route (Middleware Unit) (Action Unit) :=
  ⟨.get, path, name, fun c => return c.writeText 200 name, []⟩

def office : App Unit :=
  { routes := .mk "" "" [] [] [.mk "/admin" "" [] [page "/" "index", page "/users" "users"] []] }

def asking (path : String) : Request := { method := "GET", uri := { path } }

theorem resolve_office :
    office.routes.resolve = [page "/admin/" "index", page "/admin/users" "users"] :=
  rfl

/-- The users are found where the name of their page says. -/
theorem office_users_arrive :
    ∃ server, (office.build {}).run () = (.ok server, ()) ∧
      server.arrival? (Server.arriving ⟨1000, "a", {}⟩ (asking "/admin/users")) =
        some (.get, office.targetOf (page "/admin/users" "users"), ∅) ∧
      ∀ values, server.site.routes.urlFor "users" values = .ok "/admin/users" := by
  obtain ⟨server, hb⟩ : ∃ server, (office.build {}).run () = (.ok server, ()) := ⟨_, rfl⟩
  have hr : page "/admin/users" "users" ∈ office.routes.resolve := by
    rw [resolve_office]
    simp
  have hn : ∀ p ∈ PathPattern.parse? "/admin/users", p.names = [] := by decide
  have hs : Route.IsStable "/admin/users" := by decide
  obtain ⟨harrives, hstable⟩ := @arrives_iff_isStable Unit office {} server () () ⟨1000, "a", {}⟩
    (asking "/admin/users") _ hb hr hn rfl rfl
  exact ⟨server, hb, (harrives ∅).2 ⟨hs, rfl⟩, fun values => (hstable hs).2 values rfl⟩

/-- The index is declared and has a name, but a request for the path that the name stands
for finds nothing. -/
theorem office_index_not_found :
    ∃ server, (office.build {}).run () = (.ok server, ()) ∧
      page "/admin/" "index" ∈ office.routes.resolve ∧
      PathPattern.parse? "/admin/" = some (PathPattern.literal "/admin/".toList) ∧
      server.site.routes.urlFor "index" [] = .ok "/admin/" ∧
      server.arrival? (Server.arriving ⟨1000, "a", {}⟩ (asking "/admin/")) = none ∧
      ((server.route ⟨1000, "a", {}⟩ (Server.arriving ⟨1000, "a", {}⟩ (asking "/admin/"))).run ()).1 =
        .ok (.plain 404 "404 page not found\n") := by
  have hb : ∃ server, (office.build {}).run () = (.ok server, ()) ∧
      server.arrival? (Server.arriving ⟨1000, "a", {}⟩ (asking "/admin/")) = none ∧
      ((server.route ⟨1000, "a", {}⟩ (Server.arriving ⟨1000, "a", {}⟩ (asking "/admin/"))).run ()).1 =
        .ok (.plain 404 "404 page not found\n") := ⟨_, rfl, rfl, rfl⟩
  obtain ⟨server, hb, hnone, hresponse⟩ := hb
  have hr : page "/admin/" "index" ∈ office.routes.resolve := by
    rw [resolve_office]
    simp
  have hname := (RouteTable.get?_of_foldlM_add (isBuilt_of_build hb).routes).2 _ hr rfl
  exact ⟨server, hb, hr, rfl, RouteTable.urlFor_of_plain hname rfl [], hnone, hresponse⟩

end App

end Formwork
