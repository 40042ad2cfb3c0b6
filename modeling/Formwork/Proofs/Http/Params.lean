import Formwork.Proofs.Http.Chain

/-! # What a chain sees of the path

The values of the parameters of a path are percent-decoded before the chain of a route
starts. Whoever is called in the chain sees a value for every parameter of the pattern and
no others, if all values are texts; if one is not, the chain runs all the same, with no
parameters at all (`App.params_holdsExactly_iff`).
-/

namespace Formwork

/-- The dictionary has exactly one entry for each of the names, and no others. -/
def Dict.HoldsExactly {α : Type} (d : Dict α) (names : List String) : Prop :=
  (∀ name ∈ names, d.keys.count name = 1) ∧ ∀ key ∈ d.keys, key ∈ names

theorem Dict.holdsExactly_of_isSome {α : Type} {d : Dict α} {names : List String}
    (h : ∀ key, (d.get? key).isSome = true ↔ key ∈ names) : d.HoldsExactly names := by
  have hkeys : ∀ key, key ∈ d.keys ↔ key ∈ names := fun key => by
    rw [← h key, get?, Pairs.isSome_lookup_iff]
    rfl
  refine ⟨fun name hn => ?_, fun key hk => (hkeys key).1 hk⟩
  exact List.count_eq_one_of_mem d.nodup ((hkeys name).2 hn)

/-! ## Values of parameters -/

/-- The text that the characters of a parameter stand for. -/
def PathPattern.text? (value : List Char) : Option String :=
  Utf8.decode? (Percent.decode (Utf8.encodeChars value))

open PathPattern (text?)

variable {values : List (String × List Char)}

theorem decodedParams_eq (values : List (String × List Char)) :
    decodedParams values =
      Dict.ofList ((values.mapM fun v => (text? v.2).map fun text => (v.1, text)).getD []) := rfl

/-- Where all values are texts, the last value of a name counts. -/
theorem get?_decodedParams (h : ∀ v ∈ values, (text? v.2).isSome = true) (name : String) :
    (decodedParams values).get? name = (values.reverse.lookup name).bind text? := by
  have hmap : ∀ v ∈ values, ((text? v.2).map fun text => (v.1, text)).isSome = true := by
    intro v hv
    rw [Option.isSome_map]
    exact h v hv
  obtain ⟨decoded, hd, hall⟩ := exists_forall₂_of_mapM hmap
  have hlookup : ∀ {xs : List (String × List Char)} {ys : List (String × String)},
      List.Forall₂ (fun v d => (text? v.2).map (fun text => (v.1, text)) = some d) xs ys →
        ys.lookup name = (xs.lookup name).bind text? := by
    intro xs ys hxy
    induction hxy with
    | nil => rfl
    | @cons v d _ _ hvd _ ih =>
        obtain ⟨text, ht, rfl⟩ := Option.map_eq_some_iff.1 hvd
        by_cases hk : name = v.1
        · simp [Pairs.lookup_cons, hk, ht]
        · simpa [Pairs.lookup_cons, hk] using ih
  rw [decodedParams_eq, hd, Option.getD_some, Dict.get?_ofList]
  exact hlookup (List.rel_reverse hall)

/-- Where one value is no text, there are none. -/
theorem decodedParams_eq_empty {v : String × List Char} (hv : v ∈ values) (h : text? v.2 = none) :
    decodedParams values = ∅ := by
  have hnone : (values.mapM fun v => (text? v.2).map fun text => (v.1, text)) = none :=
    mapM_eq_none hv (by rw [h, Option.map_none])
  rw [decodedParams_eq, hnone]
  rfl

theorem holdsExactly_decodedParams_iff :
    (decodedParams values).HoldsExactly (values.map Prod.fst) ↔
      ∀ v ∈ values, (text? v.2).isSome = true := by
  constructor
  · intro h v hv
    by_contra hn
    have hempty := decodedParams_eq_empty hv (Option.not_isSome_iff_eq_none.1 hn)
    have hcount := h.1 v.1 (List.mem_map_of_mem hv)
    rw [hempty] at hcount
    cases hcount
  · intro h
    apply Dict.holdsExactly_of_isSome
    intro key
    have hmem : key ∈ values.map Prod.fst ↔ (values.reverse.lookup key).isSome = true := by
      rw [Pairs.isSome_lookup_iff, List.map_reverse, List.mem_reverse]
    rw [get?_decodedParams h, hmem]
    cases hl : values.reverse.lookup key with
    | none => simp
    | some value =>
        have hv : (key, value) ∈ values := List.mem_reverse.1 (Pairs.mem_of_lookup hl)
        simpa using h _ hv

/-! ## Contexts of a chain -/

namespace Context

variable {c d : Context}

theorem Step.params (h : Step c d) : d.params = c.params := by
  cases h with
  | draft status body shared quiet => rfl
  | session alters uses =>
      obtain ⟨sessions, rfl⟩ := useSession_eq_ok uses
      rfl

theorem Steps.params (h : Steps c d) : d.params = c.params := by
  induction h with
  | refl => rfl
  | tail _ hs ih => rw [hs.params, ih]

end Context

variable {S : Type}

/-- The middleware hands on the parameters that it was given. -/
def Middleware.KeepsParams (m : Middleware S) : Prop :=
  ∀ c state d flow later, (m c).run state = (.ok (d, flow), later) → d.params = c.params

/-- No operation on a context changes its parameters. -/
theorem Middleware.IsLawful.keepsParams {m : Middleware S} (h : IsLawful m) : KeepsParams m :=
  fun c state d flow later hrun => (h c state d flow later hrun).params

theorem Target.Passes.params {passed : List (Middleware S)} {c d : Context} {s t : S}
    (hm : ∀ m ∈ passed, Middleware.KeepsParams m) (h : Passes passed c s d t) :
    d.params = c.params := by
  induction h with
  | nil => rfl
  | cons first _ ih =>
      rw [List.forall_mem_cons] at hm
      rw [ih hm.2]
      exact hm.1 _ _ _ _ _ first

/-- All middlewares in front of the actions of the application hand on the parameters. -/
def App.KeepsParams (app : App S) : Prop :=
  ∀ r ∈ app.routes.resolve, ∀ m ∈ app.middlewares ++ r.middlewares, Middleware.KeepsParams m

theorem App.IsLawful.keepsParams {app : App S} (h : app.IsLawful) : app.KeepsParams := by
  intro r hr m hm
  have hlawful : Middleware.IsLawful m := (isLawful_targetOf h hr).middlewares m hm
  exact hlawful.keepsParams

namespace App

variable {app : App S} {settings : Settings} {server : Server S} {s₀ s₁ : S}
  {around : Surroundings} {request : Request} {verb : Verb} {target : Target S}
  {params : Dict String}

/-- A request that arrives at a route does so by values for the parameters of its pattern.
The context that a middleware or the action of the route is called with has exactly one
entry for each parameter, and no others, if and only if every value is a text. Then the
entry is this text; and otherwise the context has no parameters. -/
theorem params_holdsExactly_iff (built : (app.build settings).run s₀ = (.ok server, s₁))
    (keeps : app.KeepsParams)
    (arrives : server.arrival? (Server.arriving around request) = some (verb, target, params)) :
    ∃ r ∈ app.routes.resolve, ∃ p values, r.verb = verb ∧ target = app.targetOf r ∧
      PathPattern.parse? r.path = some p ∧
      p.match? (Server.arriving around request).uri.path.toList = some values ∧
      ∀ passed rest state c t, app.middlewares ++ r.middlewares = passed ++ rest →
        Target.Passes passed (target.start server.site around.now params
          (Server.arriving around request)) state c t →
        (c.params.HoldsExactly p.names ↔ ∀ v ∈ values, (text? v.2).isSome = true) ∧
        ((∀ v ∈ values, (text? v.2).isSome = true) → ∀ name,
          c.params.get? name = (values.reverse.lookup name).bind text?) ∧
        ((∃ v ∈ values, text? v.2 = none) → c.params = ∅) := by
  obtain ⟨values, targets, otherwise, hf, _, hl, rfl⟩ := Server.arrival?_eq_some_iff.1 arrives
  obtain ⟨r, hr, hverb, rfl, p, hp, hm⟩ := (isBuilt_of_build built).router.exists_of_find? hf hl
  refine ⟨r, hr, p, values, hverb, rfl, hp, hm, ?_⟩
  intro passed rest state c t hsplit hpasses
  have hkeeps : ∀ m ∈ passed, Middleware.KeepsParams m := by
    intro m hmem
    apply keeps r hr
    rw [hsplit]
    exact List.mem_append_left _ hmem
  have hc : c.params = decodedParams values := hpasses.params hkeeps
  rw [hc, ← PathPattern.names_of_match hm]
  refine ⟨holdsExactly_decodedParams_iff, fun h name => get?_decodedParams h name, ?_⟩
  rintro ⟨v, hv, hn⟩
  exact decodedParams_eq_empty hv hn

/-! ## Profiles

The page of a profile writes down the parameter that it sees. -/

def profile : Route (Middleware (List (Option String))) (Action (List (Option String))) :=
  ⟨.get, "/users/\x7bid\x7d", "", fun c => do
    modify (· ++ [c.params.get? "id"])
    return c, []⟩

def profiles : App (List (Option String)) := { routes := .mk "" "" [] [profile] [] }

def visiting (path : String) : Request := { method := "GET", uri := { path } }

theorem isLawful_profiles : profiles.IsLawful where
  middlewares := by
    intro m hm
    cases hm
  routes := by
    intro r hr
    cases List.mem_singleton.1 hr
    refine ⟨fun m hm => ?_, fun c state d later h => ?_⟩
    · cases hm
    · cases h
      exact .refl
  notFound := fun _ h => nomatch h
  methodNotAllowed := fun _ h => nomatch h
  panicHandler := fun _ h => nomatch h

/-- The page of a user sees who it is. -/
theorem profile_sees_id :
    ∃ server target c,
      (profiles.build {}).run [] = (.ok server, []) ∧
      server.arrival? (Server.arriving ⟨1000, "a", {}⟩ (visiting "/users/%C3%A9")) =
        some (.get, target, c.params) ∧
      Target.Passes target.middlewares (target.start server.site 1000 c.params
        (Server.arriving ⟨1000, "a", {}⟩ (visiting "/users/%C3%A9"))) [] c [] ∧
      c.params.HoldsExactly ["id"] ∧ c.params.get? "id" = some "é" := by
  obtain ⟨server, target, params, hb, ha⟩ : ∃ server target params,
      (profiles.build {}).run [] = (.ok server, []) ∧
        server.arrival? (Server.arriving ⟨1000, "a", {}⟩ (visiting "/users/%C3%A9")) =
          some (.get, target, params) := ⟨_, _, _, rfl, rfl⟩
  obtain ⟨r, hr, p, values, _, ht, hp, hm, hall⟩ :=
    params_holdsExactly_iff hb isLawful_profiles.keepsParams ha
  cases List.mem_singleton.1 hr
  have hnames : (PathPattern.parse? profile.path).map PathPattern.names = some ["id"] := rfl
  have hvalues : (PathPattern.parse? profile.path).bind (·.match? "/users/%C3%A9".toList) =
      some [("id", "%C3%A9".toList)] := rfl
  have htext : text? "%C3%A9".toList = some "é" := by decide +kernel
  have hp' : PathPattern.parse? profile.path = some p := hp
  have hm' : p.match? "/users/%C3%A9".toList = some values := hm
  rw [hp', Option.map_some, Option.some.injEq] at hnames
  rw [hp', Option.bind_some, hm', Option.some.injEq] at hvalues
  subst hvalues
  have hall' : ∀ v ∈ [("id", "%C3%A9".toList)], (text? v.2).isSome = true := by
    intro v hv
    cases List.mem_singleton.1 hv
    rw [htext]
    rfl
  let start := target.start server.site 1000 params
    (Server.arriving ⟨1000, "a", {}⟩ (visiting "/users/%C3%A9"))
  have hpasses : Target.Passes target.middlewares start [] start [] := by
    rw [ht]
    exact .nil _ _
  obtain ⟨hexact, hget, _⟩ := hall [] [] [] start [] rfl (.nil _ _)
  rw [hnames] at hexact
  refine ⟨server, target, start, hb, ha, hpasses, hexact.2 hall', ?_⟩
  rw [hget hall']
  exact htext

/-- An escape that stands for no text leaves the page without the parameter. -/
theorem profile_misses_id :
    ∃ server target,
      (profiles.build {}).run [] = (.ok server, []) ∧
      server.arrival? (Server.arriving ⟨1000, "a", {}⟩ (visiting "/users/%FF")) =
        some (.get, target, ∅) ∧
      target = profiles.targetOf profile ∧
      (PathPattern.parse? profile.path).map PathPattern.names = some ["id"] ∧
      ((server.route ⟨1000, "a", {}⟩
        (Server.arriving ⟨1000, "a", {}⟩ (visiting "/users/%FF"))).run []).2 = [none] ∧
      ¬ (∅ : Dict String).HoldsExactly ["id"] := by
  obtain ⟨server, target, hb, ha, ht, hrun⟩ : ∃ server target,
      (profiles.build {}).run [] = (.ok server, []) ∧
        server.arrival? (Server.arriving ⟨1000, "a", {}⟩ (visiting "/users/%FF")) =
          some (.get, target, decodedParams [("id", "%FF".toList)]) ∧
        target = profiles.targetOf profile ∧
        ((server.route ⟨1000, "a", {}⟩
          (Server.arriving ⟨1000, "a", {}⟩ (visiting "/users/%FF"))).run []).2 =
            [(decodedParams [("id", "%FF".toList)]).get? "id"] := ⟨_, _, rfl, rfl, rfl, rfl⟩
  have hempty : decodedParams [("id", "%FF".toList)] = ∅ :=
    decodedParams_eq_empty List.mem_cons_self (by decide +kernel)
  have hmissing : ¬ (∅ : Dict String).HoldsExactly ["id"] := by
    intro h
    have hcount := h.1 "id" List.mem_cons_self
    cases hcount
  rw [hempty] at ha hrun
  exact ⟨server, target, hb, ha, ht, rfl, hrun, hmissing⟩

end App

end Formwork
