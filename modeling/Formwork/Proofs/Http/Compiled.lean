import Formwork.Http.App
import Formwork.Proofs.Route.Lookup
import Formwork.Proofs.Sequence
import Mathlib.Data.List.Nodup

/-! # What an application is built into

A server is built from the resolved routes of an application (`App.isBuilt_of_build`). Its
router has one pattern for every path of them, and besides these only patterns for files
(`App.entries_of_compile`).
-/

namespace Formwork

variable {S : Type}

namespace App

variable {app : App S} {settings : Settings} {routes : List (Route (Middleware S) (Action S))}
  {router next : Router (Endpoint S)}

theorem addPattern_eq_ok_iff {path : String} {endpoint : Endpoint S} :
    addPattern router path endpoint = .ok next ↔ router.insert? path endpoint = some next := by
  unfold addPattern
  cases router.insert? path endpoint <;> simp

/-- Adding patterns keeps what is there and adds one entry for every item. -/
theorem entries_of_foldlM {items : List (String × Endpoint S)} (hr : router.IsApart)
    (h : items.foldlM (fun router item => addPattern router item.1 item.2) router = .ok next) :
    next.IsApart ∧ router.entries ⊆ next.entries ∧
      (∀ item ∈ items, ∃ p, PathPattern.parse? item.1 = some p ∧ (p, item.2) ∈ next.entries) ∧
      ∀ entry ∈ next.entries, entry ∈ router.entries ∨
        ∃ item ∈ items, PathPattern.parse? item.1 = some entry.1 ∧ entry.2 = item.2 := by
  induction items generalizing router with
  | nil =>
      cases h
      refine ⟨hr, fun entry hm => hm, ?_, fun entry hm => Or.inl hm⟩
      intro item hi
      cases hi
  | cons item items ih =>
      rw [List.foldlM_cons] at h
      obtain ⟨middle, hadd, hrest⟩ := bind_eq_ok.1 h
      have hinsert := addPattern_eq_ok_iff.1 hadd
      obtain ⟨p, hp, _, hmiddle⟩ := Router.insert?_eq_some_iff.1 hinsert
      obtain ⟨hnext, hkeeps, hitems, hentries⟩ := ih (hr.insert hinsert) hrest
      rw [hmiddle] at hkeeps
      refine ⟨hnext, fun entry hm => hkeeps (List.mem_append_left _ hm), ?_, ?_⟩
      · intro other ho
        rcases List.mem_cons.1 ho with rfl | ho
        · exact ⟨p, hp, hkeeps (by simp)⟩
        · exact hitems other ho
      · intro entry hm
        rcases hentries entry hm with hm | ⟨other, ho, he⟩
        · rw [hmiddle] at hm
          rcases List.mem_append.1 hm with hm | hm
          · exact Or.inl hm
          · cases List.mem_singleton.1 hm
            exact Or.inr ⟨item, List.mem_cons_self, hp, rfl⟩
        · exact Or.inr ⟨other, List.mem_cons_of_mem _ ho, he⟩

/-- Routes pass the check where none of them uses the old way to write parameters, and each has
a verb and a path of its own. -/
theorem checkRoutes_eq_ok_iff {seen : List (String × Verb)} :
    checkRoutes seen routes = .ok () ↔
      (∀ r ∈ routes, usesOldParameter r.path = false) ∧
        (routes.map fun r => (r.path, r.verb)).Nodup ∧ ∀ r ∈ routes, (r.path, r.verb) ∉ seen := by
  induction routes generalizing seen with
  | nil => simp [checkRoutes]
  | cons r routes ih =>
      rw [checkRoutes, List.forall_mem_cons, List.forall_mem_cons, List.map_cons, List.nodup_cons]
      by_cases hold : usesOldParameter r.path = true
      · simp [hold]
      · rw [if_neg hold]
        by_cases hseen : (r.path, r.verb) ∈ seen
        · simp [hseen]
        · rw [if_neg (by simpa using hseen), ih]
          -- what was seen before and the first route are what the others must not repeat
          have hfresh : (∀ other ∈ routes, (other.path, other.verb) ∉ (r.path, r.verb) :: seen) ↔
              (r.path, r.verb) ∉ routes.map (fun r => (r.path, r.verb)) ∧
                ∀ other ∈ routes, (other.path, other.verb) ∉ seen := by
            simp only [List.mem_cons, not_or, List.mem_map, not_exists, not_and]
            exact forall₂_and
          rw [hfresh]
          simp only [Bool.not_eq_true] at hold
          simp only [hold, hseen, not_false_iff, true_and]
          tauto

/-! ## Routes and files together -/

/-- What the router is given, path by path: the targets of every declared path, and the files. -/
def placements (app : App S) (settings : Settings)
    (routes : List (Route (Middleware S) (Action S))) : List (String × Endpoint S) :=
  ((routes.map Route.path).eraseDups.map fun path => (path, app.endpointOf routes path)) ++
    match mount? settings.staticFiles with
    | some mount => (mountPaths mount).map fun path => (path, .files mount)
    | none => []

theorem compile_eq :
    app.compile settings routes = (do
      checkRoutes [] routes
      (app.placements settings routes).foldlM
        (fun router item => addPattern router item.1 item.2) {}) := by
  unfold compile placements
  rw [List.foldlM_append, List.foldlM_map]
  cases mount? settings.staticFiles with
  | none => rfl
  | some mount =>
      simp only [List.foldlM_map]

theorem mem_placements_iff {item : String × Endpoint S} :
    item ∈ app.placements settings routes ↔
      (∃ r ∈ routes, item = (r.path, app.endpointOf routes r.path)) ∨
        ∃ mount, mount? settings.staticFiles = some mount ∧
          ∃ path ∈ mountPaths mount, item = (path, .files mount) := by
  unfold placements
  rw [List.mem_append]
  apply or_congr
  · constructor
    · intro hm
      obtain ⟨path, hpath, rfl⟩ := List.mem_map.1 hm
      obtain ⟨r, hr, rfl⟩ := List.mem_map.1 (List.mem_eraseDups.1 hpath)
      exact ⟨r, hr, rfl⟩
    · rintro ⟨r, hr, rfl⟩
      exact List.mem_map.2 ⟨r.path, List.mem_eraseDups.2 (List.mem_map_of_mem hr), rfl⟩
  · cases mount? settings.staticFiles with
    | none => simp
    | some mount => simp [eq_comm]

/-- The router of an application with the routes. -/
structure IsCompiled (app : App S) (routes : List (Route (Middleware S) (Action S)))
    (router : Router (Endpoint S)) : Prop where
  apart : router.IsApart
  distinct : (routes.map fun r => (r.path, r.verb)).Nodup
  covers : ∀ r ∈ routes, ∃ p, PathPattern.parse? r.path = some p ∧
    (p, app.endpointOf routes r.path) ∈ router.entries
  entries : ∀ entry ∈ router.entries, (∃ r ∈ routes, PathPattern.parse? r.path = some entry.1 ∧
    entry.2 = app.endpointOf routes r.path) ∨ ∃ mount, entry.2 = .files mount

theorem mem_entries_iff (h : app.compile settings routes = .ok router)
    {entry : PathPattern × Endpoint S} :
    entry ∈ router.entries ↔ ∃ item ∈ app.placements settings routes,
      PathPattern.parse? item.1 = some entry.1 ∧ entry.2 = item.2 := by
  obtain ⟨_, _, hfold⟩ := bind_eq_ok.1 (compile_eq.symm.trans h)
  obtain ⟨_, _, hplaced, hentries⟩ := entries_of_foldlM List.Pairwise.nil hfold
  constructor
  · intro hm
    rcases hentries entry hm with hm | hm
    · cases hm
    · exact hm
  · rintro ⟨item, hitem, hp, he⟩
    obtain ⟨p, hparse, hm⟩ := hplaced item hitem
    rw [hp] at hparse
    cases hparse
    rw [← he] at hm
    exact hm

/-- The entries for files are those of the place where the settings have files served. -/
theorem entries_of_compile (h : app.compile settings routes = .ok router) :
    app.IsCompiled routes router ∧ ∀ entry ∈ router.entries, ∀ mount, entry.2 = .files mount →
      mount? settings.staticFiles = some mount := by
  obtain ⟨_, hcheck, hfold⟩ := bind_eq_ok.1 (compile_eq.symm.trans h)
  obtain ⟨hapart, _, hplaced, _⟩ := entries_of_foldlM List.Pairwise.nil hfold
  refine ⟨⟨hapart, (checkRoutes_eq_ok_iff.1 hcheck).2.1, ?_, ?_⟩, ?_⟩
  · intro r hr
    exact hplaced _ (mem_placements_iff.2 (Or.inl ⟨r, hr, rfl⟩))
  · intro entry hm
    obtain ⟨item, hitem, hp, he⟩ := (mem_entries_iff h).1 hm
    rcases mem_placements_iff.1 hitem with ⟨r, hr, rfl⟩ | ⟨mount, _, path, _, rfl⟩
    · exact Or.inl ⟨r, hr, hp, he⟩
    · exact Or.inr ⟨mount, he⟩
  · intro entry hm mount hfiles
    obtain ⟨item, hitem, _, he⟩ := (mem_entries_iff h).1 hm
    rw [hfiles] at he
    rcases mem_placements_iff.1 hitem with ⟨r, _, rfl⟩ | ⟨place, hplace, path, _, rfl⟩
    · cases he
    · cases he
      exact hplace

end App

namespace App

variable {app : App S} {settings : Settings} {routes : List (Route (Middleware S) (Action S))}
  {router next : Router (Endpoint S)}

theorem exists_of_lookup {path : String} {verb : Verb} {target : Target S}
    (h : ((routes.filter (·.path == path)).map fun r => (r.verb, app.targetOf r)).lookup verb =
      some target) :
    ∃ r ∈ routes, r.path = path ∧ r.verb = verb ∧ target = app.targetOf r := by
  obtain ⟨r, hr, he⟩ := List.mem_map.1 (Pairs.mem_of_lookup h)
  obtain ⟨hr, hpath⟩ := List.mem_filter.1 hr
  cases he
  exact ⟨r, hr, eq_of_beq hpath, rfl, rfl⟩

/-- At one path, the verbs tell the routes apart. -/
theorem nodup_verbs (distinct : (routes.map fun r => (r.path, r.verb)).Nodup) (path : String) :
    (((routes.filter (·.path == path)).map fun r =>
      (r.verb, app.targetOf r)).map Prod.fst).Nodup := by
  rw [List.map_map]
  refine List.Nodup.of_map (fun verb => (path, verb)) ?_
  rw [List.map_map]
  have hsame : (routes.filter (·.path == path)).map ((fun verb => (path, verb)) ∘ Prod.fst ∘
      fun r => (r.verb, app.targetOf r)) =
        (routes.filter (·.path == path)).map fun r => (r.path, r.verb) := by
    apply List.map_congr_left
    intro r hr
    have hpath : r.path = path := eq_of_beq (List.mem_filter.1 hr).2
    simp [hpath]
  rw [hsame]
  exact distinct.sublist (List.filter_sublist.map _)

namespace IsCompiled

variable {r other : Route (Middleware S) (Action S)}

/-- A verb and a path belong to one route. -/
theorem eq_of_path_verb (h : app.IsCompiled routes router) (hr : r ∈ routes) (ho : other ∈ routes)
    (hpath : r.path = other.path) (hverb : r.verb = other.verb) : r = other :=
  List.inj_on_of_nodup_map h.distinct hr ho (Prod.ext hpath hverb)

/-- At the path of a route, its verb leads to its target. -/
theorem lookup_eq_targetOf (h : app.IsCompiled routes router) (hr : r ∈ routes) :
    ((routes.filter (·.path == r.path)).map fun r => (r.verb, app.targetOf r)).lookup r.verb =
      some (app.targetOf r) := by
  rw [Pairs.lookup_eq_some_iff (nodup_verbs h.distinct r.path)]
  exact List.mem_map_of_mem (List.mem_filter.2 ⟨hr, beq_self_eq_true _⟩)

/-- A target that is found belongs to a route whose pattern matches the path. -/
theorem exists_of_find? (h : app.IsCompiled routes router) {path : String}
    {values : List (String × List Char)} {targets : List (Verb × Target S)} {otherwise : Target S}
    (hf : router.find? path = some (values, .methods targets otherwise)) {verb : Verb}
    {target : Target S} (hl : targets.lookup verb = some target) :
    ∃ r ∈ routes, r.verb = verb ∧ target = app.targetOf r ∧
      ∃ p, PathPattern.parse? r.path = some p ∧ p.match? path.toList = some values := by
  obtain ⟨p, hm, hmatch, _⟩ := Router.mem_of_find? hf
  rcases h.entries _ hm with ⟨r, _, hp, he⟩ | ⟨mount, he⟩
  · cases he
    obtain ⟨found, hfound, hpath, hverb, ht⟩ := exists_of_lookup hl
    exact ⟨found, hfound, hverb, ht, p, by rw [hpath]; exact hp, hmatch⟩
  · cases he

end IsCompiled

/-- The server is what the application is built into with the settings. -/
structure IsBuilt (app : App S) (settings : Settings) (server : Server S) : Prop where
  site : server.site.settings = settings ∧ server.site.store = storeOf settings
  routes : RouteTable.ofRoutes app.routes.resolve = .ok server.site.routes
  router : app.IsCompiled app.routes.resolve server.router
  files : ∀ entry ∈ server.router.entries, ∀ mount, entry.2 = .files mount →
    mount? settings.staticFiles = some mount
  notFound : server.notFound = ⟨"none", [], app.notFound.getD defaultNotFound, 404⟩
  panicHandler : server.panicHandler = app.panicHandler

/-- The result of building, once the modules have started. -/
def assemble (app : App S) (settings : Settings) : Except BuildError (Server S) := do
  let table ← (RouteTable.ofRoutes app.routes.resolve).mapError .route
  let router ← app.compile settings app.routes.resolve
  return {
    site := ⟨settings, table, storeOf settings⟩
    router
    notFound := ⟨"none", [], app.notFound.getD defaultNotFound, 404⟩
    panicHandler := app.panicHandler }

theorem run_build (state : S) :
    (app.build settings).run state =
      match (startModules settings 0 app.modules).run state with
      | (.ok (), later) => (app.assemble settings, later)
      | (.error error, later) => (.error error, later) := by
  unfold build
  rw [run_bind]
  cases (startModules settings 0 app.modules).run state with
  | mk result later => cases result <;> rfl

theorem assemble_of_build {server : Server S} {state later : S}
    (h : (app.build settings).run state = (.ok server, later)) :
    app.assemble settings = .ok server ∧
      ((startModules settings 0 app.modules).run state).2 = later := by
  rw [run_build] at h
  cases hstart : (startModules settings 0 app.modules).run state with
  | mk result middle =>
      rw [hstart] at h
      cases result with
      | error error => cases h
      | ok _ => exact ⟨congrArg Prod.fst h, congrArg Prod.snd h⟩

theorem compile_of_build {server : Server S} {state later : S}
    (h : (app.build settings).run state = (.ok server, later)) :
    app.compile settings app.routes.resolve = .ok server.router := by
  obtain ⟨table, _, hs⟩ := bind_eq_ok.1 (assemble_of_build h).1
  obtain ⟨router, hrouter, hs⟩ := bind_eq_ok.1 hs
  cases hs
  exact hrouter

theorem isBuilt_of_build {server : Server S} {state later : S}
    (h : (app.build settings).run state = (.ok server, later)) : app.IsBuilt settings server := by
  obtain ⟨hcompiled, hfiles⟩ := entries_of_compile (compile_of_build h)
  obtain ⟨table, htable, hs⟩ := bind_eq_ok.1 (assemble_of_build h).1
  obtain ⟨router, _, hs⟩ := bind_eq_ok.1 hs
  cases hs
  have hroutes : RouteTable.ofRoutes app.routes.resolve = .ok table := by
    cases hr : RouteTable.ofRoutes app.routes.resolve with
    | error e =>
        rw [hr] at htable
        cases htable
    | ok found =>
        rw [hr] at htable
        cases htable
        rfl
  exact ⟨⟨rfl, rfl⟩, hroutes, hcompiled, hfiles, rfl, rfl⟩

end App

/-- The verb of the routes that answer a method. -/
def Verb.answering? (method : String) : Option Verb :=
  if method = "HEAD" then some .get else Verb.ofText? method

theorem Endpoint.target?_eq (targets : List (Verb × Target S)) (method : String) :
    target? targets method = (Verb.answering? method).bind fun verb => targets.lookup verb := by
  unfold target? Verb.answering?
  by_cases hm : method = "HEAD"
  · subst hm
    rfl
  · rw [if_neg hm, if_neg hm]
    cases Verb.ofText? method <;> rfl

namespace Server

/-- The route that a request arrives at: its verb, its target and the parameters of the
path. There is none for a request that leads to files or is refused. -/
def arrival? (server : Server S) (request : Request) : Option (Verb × Target S × Dict String) :=
  match server.router.find? request.uri.path with
  | some (params, .methods targets _) =>
      (Verb.answering? request.method).bind fun verb =>
        (targets.lookup verb).map fun target => (verb, target, decodedParams params)
  | _ => none

variable {server : Server S} {request : Request} {verb : Verb} {target : Target S}
  {params : Dict String}

theorem arrival?_eq_some_iff :
    server.arrival? request = some (verb, target, params) ↔
      ∃ values targets otherwise,
        server.router.find? request.uri.path = some (values, .methods targets otherwise) ∧
          Verb.answering? request.method = some verb ∧ targets.lookup verb = some target ∧
            params = decodedParams values := by
  unfold arrival?
  split
  · rename_i values targets otherwise hf
    constructor
    · intro h
      obtain ⟨found, hv, h⟩ := Option.bind_eq_some_iff.1 h
      obtain ⟨_, hl, he⟩ := Option.map_eq_some_iff.1 h
      cases he
      exact ⟨values, targets, otherwise, hf, hv, hl, rfl⟩
    · rintro ⟨_, _, _, he, hv, hl, rfl⟩
      rw [hf] at he
      cases he
      rw [hv, Option.bind_some, hl]
      rfl
  · rename_i hf
    refine iff_of_false nofun ?_
    rintro ⟨values, targets, otherwise, he, _⟩
    exact hf values targets otherwise he

/-- A request that arrives at a route is answered by its target. -/
theorem route_of_arrival? {around : Surroundings}
    (h : server.arrival? request = some (verb, target, params)) :
    server.route around request =
      target.dispatch server.panicHandler server.site around.now params request := by
  obtain ⟨values, targets, otherwise, hf, hv, hl, rfl⟩ := arrival?_eq_some_iff.1 h
  have ht : Endpoint.target? targets request.method = some target := by
    rw [Endpoint.target?_eq, hv]
    exact hl
  simp only [route, hf, ht]

end Server

end Formwork
