import Formwork.Proofs.Http.Compiled
import Formwork.Proofs.Route.Names
import Formwork.Proofs.Route.Tree

/-! # What an application can be built from

Before any path is read as a pattern, building starts the modules and checks the routes: no
name for two paths, no parameter written the old way, no verb twice at one path. What fails
there is returned as an error. The router then takes the patterns one by one, and panics at
one that it cannot read or that conflicts with another. None of the checks asks for this, so
building panics exactly if all checks pass and the patterns cannot stand side by side
(`App.build_panics_iff`), and gives a server exactly if they can (`App.exists_build_iff`).
-/

namespace Formwork

/-- The error is no error that is returned, but a panic of the router. -/
def BuildError.isPanic : BuildError → Bool
  | patternRefused _ => true
  | _ => false

namespace PathPattern

variable {text : String} {texts others : List String}

/-- The texts are patterns, and no two of them conflict. -/
structure Coexist (texts : List String) : Prop where
  wellFormed : ∀ text ∈ texts, ∃ p, parse? text = some p
  apart : texts.Pairwise fun a b => ∀ p ∈ parse? a, ∀ q ∈ parse? b, p.conflicts q = false

theorem coexist_cons_iff :
    Coexist (text :: texts) ↔
      ∃ p, parse? text = some p ∧
        (∀ other ∈ texts, ∀ q ∈ parse? other, p.conflicts q = false) ∧ Coexist texts := by
  constructor
  · intro h
    obtain ⟨hfirst, hrest⟩ := List.forall_mem_cons.1 h.wellFormed
    obtain ⟨hapart, hothers⟩ := List.pairwise_cons.1 h.apart
    obtain ⟨p, hp⟩ := hfirst
    exact ⟨p, hp, fun other ho => hapart other ho p hp, hrest, hothers⟩
  · rintro ⟨p, hp, hapart, hrest⟩
    refine ⟨List.forall_mem_cons.2 ⟨⟨p, hp⟩, hrest.wellFormed⟩, ?_⟩
    refine List.pairwise_cons.2 ⟨?_, hrest.apart⟩
    intro other ho q hq
    rw [Option.mem_def, hp, Option.some.injEq] at hq
    subst hq
    exact hapart other ho

theorem Coexist.perm (hp : texts.Perm others) (h : Coexist texts) : Coexist others where
  wellFormed text ht := h.wellFormed text (hp.mem_iff.2 ht)
  apart := by
    refine (hp.pairwise_iff ?_).1 h.apart
    intro a b hab p hpa q hqb
    rw [conflicts_comm]
    exact hab q hqb p hpa

/-- Texts without braces coexist if they are different paths and none of their segments begins
with a mark that once stood for a parameter. -/
theorem coexist_of_plain (rooted : ∀ text ∈ texts, Text.hasHead "/" text = true)
    (unmarked : ∀ text ∈ texts, hasOldMark text.toList = false)
    (plain : ∀ text ∈ texts, text.toList.any PathPart.isBrace = false) (distinct : texts.Nodup) :
    Coexist texts where
  wellFormed text ht := ⟨_, parse?_of_plain (rooted text ht) (unmarked text ht) (plain text ht)⟩
  apart := by
    apply List.Pairwise.imp_of_mem _ distinct
    intro a b ha hb hne p hp q hq
    rw [parse?_plain (plain a ha) hp, parse?_plain (plain b hb) hq]
    apply conflicts_literal
    intro hsame
    exact hne (String.toList_injective hsame)

end PathPattern

variable {S : Type}

namespace App

variable {app : App S} {settings : Settings} {routes : List (Route (Middleware S) (Action S))}
  {router next : Router (Endpoint S)} {state : S}

/-! ## The router -/

/-- A router takes patterns exactly if they coexist and conflict with none that it has. -/
theorem exists_foldlM_addPattern_iff {items : List (String × Endpoint S)} :
    (∃ next, items.foldlM (fun router item => addPattern router item.1 item.2) router =
        .ok next) ↔
      PathPattern.Coexist (items.map Prod.fst) ∧
        ∀ entry ∈ router.entries, ∀ item ∈ items, ∀ p ∈ PathPattern.parse? item.1,
          entry.1.conflicts p = false := by
  induction items generalizing router with
  | nil =>
      refine iff_of_true ⟨router, rfl⟩ ⟨⟨by simp, by simp⟩, by simp⟩
  | cons item items ih =>
      have hstep : (∃ next, (item :: items).foldlM
            (fun router item => addPattern router item.1 item.2) router = .ok next) ↔
          ∃ middle, addPattern router item.1 item.2 = .ok middle ∧
            ∃ next, items.foldlM (fun router item => addPattern router item.1 item.2) middle =
              .ok next := by
        rw [List.foldlM_cons]
        simp only [bind_eq_ok]
        tauto
      rw [hstep, List.map_cons, PathPattern.coexist_cons_iff]
      constructor
      · rintro ⟨middle, hadd, hrest⟩
        obtain ⟨p, hp, hfree, rfl⟩ := Router.insert?_eq_some_iff.1 (addPattern_eq_ok_iff.1 hadd)
        obtain ⟨hcoexist, hothers⟩ := ih.1 hrest
        refine ⟨⟨p, hp, ?_, hcoexist⟩, ?_⟩
        · intro text ht q hq
          obtain ⟨other, ho, rfl⟩ := List.mem_map.1 ht
          exact hothers (p, item.2) (by simp) other ho q hq
        · intro entry he
          refine List.forall_mem_cons.2 ⟨?_, fun other ho q hq => ?_⟩
          · intro q hq
            rw [Option.mem_def, hp, Option.some.injEq] at hq
            rw [← hq]
            exact hfree entry he
          · exact hothers entry (List.mem_append_left _ he) other ho q hq
      · rintro ⟨⟨p, hp, hapart, hcoexist⟩, hothers⟩
        have hfree : ∀ entry ∈ router.entries, entry.1.conflicts p = false := by
          intro entry he
          exact hothers entry he item List.mem_cons_self p hp
        refine ⟨_, addPattern_eq_ok_iff.2 (Router.insert?_eq_some_iff.2 ⟨p, hp, hfree, rfl⟩),
          ih.2 ⟨hcoexist, ?_⟩⟩
        intro entry he other ho q hq
        rcases List.mem_append.1 he with he | he
        · exact hothers entry he other (List.mem_cons_of_mem _ ho) q hq
        · rw [List.mem_singleton.1 he]
          exact hapart other.1 (List.mem_map_of_mem ho) q hq

theorem isPanic_of_foldlM_addPattern {items : List (String × Endpoint S)} {error : BuildError}
    (h : items.foldlM (fun router item => addPattern router item.1 item.2) router =
      .error error) : error.isPanic = true := by
  induction items generalizing router with
  | nil => cases h
  | cons item items ih =>
      rw [List.foldlM_cons] at h
      cases hadd : addPattern router item.1 item.2 with
      | ok middle =>
          rw [hadd] at h
          exact ih h
      | error found =>
          rw [hadd] at h
          cases h
          unfold addPattern at hadd
          split at hadd
          · cases hadd
          · cases hadd
            rfl

/-! ## Routes and files together -/

/-- The paths of routes and files. -/
def patternTexts (settings : Settings) (routes : List (Route (Middleware S) (Action S))) :
    List String :=
  (routes.map Route.path).eraseDups ++
    match mount? settings.staticFiles with
    | some mount => mountPaths mount
    | none => []

theorem map_fst_placements :
    (app.placements settings routes).map Prod.fst = patternTexts settings routes := by
  unfold placements patternTexts
  cases mount? settings.staticFiles <;> simp [Function.comp_def]

theorem isPanic_of_checkRoutes {seen : List (String × Verb)} {error : BuildError}
    (h : checkRoutes seen routes = .error error) : error.isPanic = false := by
  induction routes generalizing seen with
  | nil => cases h
  | cons r routes ih =>
      rw [checkRoutes] at h
      split at h
      · cases h
        rfl
      · split at h
        · cases h
          rfl
        · exact ih h

theorem isPanic_of_startModules {index : Nat} {modules : List (Module S)} {later : S}
    {error : BuildError}
    (h : (startModules settings index modules).run state = (.error error, later)) :
    error.isPanic = false := by
  induction modules generalizing index state with
  | nil => cases h
  | cons m ms ih =>
      change startModules settings index (m :: ms) state = _ at h
      rw [startModules] at h
      dsimp only at h
      split at h
      · exact ih h
      · cases h
        rfl

/-! ## The server -/

/-- The routes pass what building checks before it makes patterns of their paths. -/
structure IsChecked (routes : List (Route (Middleware S) (Action S))) : Prop where
  names : RouteTable.Consistent routes
  current : ∀ r ∈ routes, usesOldParameter r.path = false
  distinct : (routes.map fun r => (r.path, r.verb)).Nodup

theorem IsChecked.perm {others : List (Route (Middleware S) (Action S))}
    (hp : routes.Perm others) (h : IsChecked routes) : IsChecked others where
  names := h.names.perm hp
  current r hr := h.current r (hp.mem_iff.2 hr)
  distinct := (hp.map _).nodup_iff.1 h.distinct

theorem isChecked_iff :
    IsChecked routes ↔ RouteTable.Consistent routes ∧ checkRoutes [] routes = .ok () := by
  rw [checkRoutes_eq_ok_iff]
  constructor
  · intro h
    exact ⟨h.names, h.current, h.distinct, by simp⟩
  · rintro ⟨hnames, hcurrent, hdistinct, -⟩
    exact ⟨hnames, hcurrent, hdistinct⟩

/-- What building comes to, once the modules have started. -/
inductive Assembles (app : App S) (settings : Settings) : Except BuildError (Server S) → Prop where
  /-- A check fails. -/
  | unchecked {error : BuildError} : ¬ IsChecked app.routes.resolve → error.isPanic = false →
      Assembles app settings (.error error)
  /-- The router panics. -/
  | refused {error : BuildError} : IsChecked app.routes.resolve →
      ¬ PathPattern.Coexist (patternTexts settings app.routes.resolve) → error.isPanic = true →
        Assembles app settings (.error error)
  | built {server : Server S} : IsChecked app.routes.resolve →
      PathPattern.Coexist (patternTexts settings app.routes.resolve) →
        Assembles app settings (.ok server)

theorem assemble_cases (app : App S) (settings : Settings) :
    app.Assembles settings (app.assemble settings) := by
  unfold assemble
  cases htable : RouteTable.ofRoutes app.routes.resolve with
  | error e =>
      apply Assembles.unchecked
      · intro h
        obtain ⟨t, ht⟩ := RouteTable.exists_ofRoutes_iff.2 h.names
        rw [htable] at ht
        cases ht
      · rfl
  | ok table =>
      have hnames := RouteTable.exists_ofRoutes_iff.1 ⟨table, htable⟩
      rw [compile_eq]
      cases hcheck : checkRoutes [] app.routes.resolve with
      | error e =>
          apply Assembles.unchecked
          · intro h
            rw [(isChecked_iff.1 h).2] at hcheck
            cases hcheck
          · exact isPanic_of_checkRoutes hcheck
      | ok _ =>
          have hchecked := isChecked_iff.2 ⟨hnames, hcheck⟩
          have hplace := @exists_foldlM_addPattern_iff S {}
            (app.placements settings app.routes.resolve)
          rw [map_fst_placements] at hplace
          cases hrouter : (app.placements settings app.routes.resolve).foldlM
              (fun router item => addPattern router item.1 item.2) {} with
          | error e =>
              refine Assembles.refused hchecked ?_ (isPanic_of_foldlM_addPattern hrouter)
              intro hcoexist
              obtain ⟨router, hr⟩ := hplace.2 ⟨hcoexist, by simp⟩
              rw [hrouter] at hr
              cases hr
          | ok router => exact Assembles.built hchecked (hplace.1 ⟨router, hrouter⟩).1

/-- An application can be built exactly if its modules start, its routes pass the checks, and
the patterns of routes and files coexist. -/
theorem exists_build_iff :
    (∃ server, ((app.build settings).run state).1 = .ok server) ↔
      ((startModules settings 0 app.modules).run state).1 = .ok () ∧
        IsChecked app.routes.resolve ∧
          PathPattern.Coexist (patternTexts settings app.routes.resolve) := by
  rw [run_build]
  cases hstart : (startModules settings 0 app.modules).run state with
  | mk result later =>
      cases result with
      | error error => simp
      | ok _ =>
          have hcases := app.assemble_cases settings
          generalize app.assemble settings = result at hcases
          cases hcases with
          | unchecked h _ => simp [h]
          | refused _ h _ => simp [h]
          | built hchecked hcoexist => simp [hchecked, hcoexist]

theorem not_coexist_of_panic {error : BuildError}
    (h : ((app.build settings).run state).1 = .error error) (hp : error.isPanic = true) :
    ((startModules settings 0 app.modules).run state).1 = .ok () ∧
      IsChecked app.routes.resolve ∧
        ¬ PathPattern.Coexist (patternTexts settings app.routes.resolve) := by
  rw [run_build] at h
  cases hstart : (startModules settings 0 app.modules).run state with
  | mk result later =>
      rw [hstart] at h
      cases result with
      | error found =>
          cases h
          rw [isPanic_of_startModules hstart] at hp
          cases hp
      | ok _ =>
          have hcases := app.assemble_cases settings
          rw [show app.assemble settings = .error error from h] at hcases
          cases hcases with
          | unchecked _ hreturned =>
              rw [hreturned] at hp
              cases hp
          | refused hchecked hcoexist _ => exact ⟨rfl, hchecked, hcoexist⟩

/-- Building panics exactly if the modules start, the routes pass the checks, and yet some pattern
of routes and files is malformed or two of them conflict. -/
theorem build_panics_iff (app : App S) (settings : Settings) (state : S) :
    (∃ error, ((app.build settings).run state).1 = .error error ∧ error.isPanic = true) ↔
      ((startModules settings 0 app.modules).run state).1 = .ok () ∧
        IsChecked app.routes.resolve ∧
          ¬ PathPattern.Coexist (patternTexts settings app.routes.resolve) := by
  constructor
  · rintro ⟨error, h, hp⟩
    exact not_coexist_of_panic h hp
  · rintro ⟨hstart, hchecked, hcoexist⟩
    have hrun := @run_build S app settings state
    rw [← Prod.eta ((startModules settings 0 app.modules).run state), hstart] at hrun
    have hcases := app.assemble_cases settings
    rw [hrun]
    generalize app.assemble settings = result at hcases
    cases hcases with
    | unchecked h _ => exact absurd hchecked h
    | @refused error _ _ hp => exact ⟨error, rfl, hp⟩
    | built _ h => exact absurd h hcoexist

/-- Without files, paths without braces never make building panic, if no segment of them begins
with a star. -/
theorem build_returns_of_plain {error : BuildError}
    (plain : ∀ r ∈ app.routes.resolve, r.path.toList.any PathPart.isBrace = false)
    (unstarred : ∀ r ∈ app.routes.resolve, (Text.split '/' r.path).any (Text.hasHead "*") = false)
    (unserved : settings.staticFiles.isServed = false)
    (h : ((app.build settings).run state).1 = .error error) : error.isPanic = false := by
  by_contra hp
  rw [Bool.not_eq_false] at hp
  obtain ⟨_, hchecked, hcoexist⟩ := not_coexist_of_panic h hp
  have hpath : ∀ text ∈ patternTexts settings app.routes.resolve,
      ∃ r ∈ app.routes.resolve, r.path = text := by
    intro text ht
    simpa [patternTexts, mount?, unserved, List.mem_eraseDups] using ht
  apply hcoexist
  apply PathPattern.coexist_of_plain
  · intro text ht
    obtain ⟨r, hr, rfl⟩ := hpath text ht
    exact Group.hasHead_path_of_mem_resolve hr
  · intro text ht
    obtain ⟨r, hr, rfl⟩ := hpath text ht
    rw [PathPattern.hasOldMark_toList, unstarred r hr, Bool.or_false]
    exact hchecked.current r hr
  · intro text ht
    obtain ⟨r, hr, rfl⟩ := hpath text ht
    exact plain r hr
  · simpa [patternTexts, mount?, unserved] using nodup_eraseDups _

/-! ## Pages that nobody can build -/

def pages (paths : List String) : App Unit :=
  { routes := .mk "" "" [] (paths.map fun path => ⟨.get, path, "", fun c => return c, []⟩) [] }

/-- Files at a place that begins with a colon. -/
def misplaced : Settings := { port := 8080, staticFiles := ⟨"/:shelf", "public"⟩ }

/-- With settings in which no problem is found, building panics at a path with a star, at two
paths that differ only in the name of a parameter, and at the files. -/
theorem pages_panic :
    Settings.problems { port := 8080 } = [] ∧ misplaced.problems = [] ∧
      ((pages ["/files/*rest"]).build { port := 8080 }).run () =
        (.error (.patternRefused "/files/*rest"), ()) ∧
      ((pages ["/\x7bid\x7d", "/\x7bname\x7d"]).build { port := 8080 }).run () =
        (.error (.patternRefused "/\x7bname\x7d"), ()) ∧
      ((pages []).build misplaced).run () =
        (.error (.patternRefused "/:shelf/\x7b*tail\x7d"), ()) ∧
      ∀ path, (BuildError.patternRefused path).isPanic = true :=
  ⟨rfl, rfl, rfl, rfl, rfl, fun _ => rfl⟩

end App

end Formwork
