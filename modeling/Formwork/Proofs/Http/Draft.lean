import Formwork.Proofs.Http.Lawful

/-! # Who drafts a response

For every request there is at most one context whose draft becomes the response: that
of the chain, or, after a panic, that of the panic handler (`Server.drafted?`). It was
reached from the start of the chain (`Server.steps_of_drafted?`), and the cookies of
the response are those that it leads to and no others (`Server.handle_setCookies`).
-/

namespace Formwork

/-! ## The context that drafts the response -/

/-- The cookies that a response sets. -/
def Response.setCookies (r : Response) : List Bytes := r.headers.getAll "set-cookie"

variable {S : Type}

namespace Target

/-- The context on which the chain of a target starts. -/
def start (target : Target S) (site : Site) (now : Int) (params : Dict String)
    (request : Request) : Context :=
  { site, now, request, params, route := target.route, status := target.status }

/-- The context that drafts the response to a request: the one that the chain hands on,
or the one of the handler after a panic. -/
def drafted? (target : Target S) (handler : Option (PanicHandler S)) (start : Context)
    (state : S) : Option Context :=
  match (runChain target.action target.middlewares start).run state with
  | (.ok c, _) => some c
  | (.error panic, state) =>
      handler.bind fun handler =>
        match (handler panic.message (start.fresh.withStatus 500)).run state with
        | (.ok c, _) => some c
        | (.error _, _) => none

variable {target : Target S} {handler : Option (PanicHandler S)} {state : S}

/-- What drafts the response was reached from the start of the chain. -/
theorem steps_of_drafted? {site : Site} {now : Int} {params : Dict String} {request : Request}
    {c : Context} (ht : target.IsLawful) (hh : ∀ h ∈ handler, PanicHandler.IsLawful h)
    (hd : target.drafted? handler (target.start site now params request) state = some c) :
    Context.Steps (target.start site now params request) c := by
  unfold drafted? at hd
  split at hd
  · rename_i hrun
    cases hd
    exact runChain_steps ht.middlewares ht.action _ _ _ _ hrun
  · obtain ⟨h, hm, hd⟩ := Option.bind_eq_some_iff.1 hd
    split at hd
    · rename_i hrun
      cases hd
      -- the handler starts where the chain did, but for the status
      exact .head (.draft 500 [] ∅ rfl) (hh h hm _ _ _ _ _ hrun)
    · cases hd

theorem run_dispatch (site : Site) (now : Int) (params : Dict String) (request : Request) :
    (target.dispatch handler site now params request).run state =
      if site.settings.limits.bodySize < request.body.length then (.ok bodyTooLarge, state)
      else match (runChain target.action target.middlewares
          (target.start site now params request)).run state with
        | (.ok c, later) => (c.respond, later)
        | (.error panic, later) =>
            (recover handler (target.start site now params request) panic).run later :=
  rfl

/-- What comes of a request: a refusal, what was drafted, or the plain answer to a panic that
nothing recovered from. -/
theorem dispatch_result (site : Site) (now : Int) (params : Dict String) (request : Request) :
    ((target.dispatch handler site now params request).run state).1 =
      if site.settings.limits.bodySize < request.body.length then .ok bodyTooLarge
      else match target.drafted? handler (target.start site now params request) state with
        | some c => c.respond
        | none => .ok internalError := by
  rw [run_dispatch]
  unfold drafted?
  split
  · rfl
  · cases (runChain target.action target.middlewares (target.start site now params request)).run
        state with
    | mk result later =>
        cases result with
        | ok c => rfl
        | error panic =>
            change (recover handler (target.start site now params request) panic later).1 = _
            cases handler with
            | none => rfl
            | some handler =>
                unfold recover
                simp only [Option.bind_some]
                cases (handler panic.message
                    ((target.start site now params request).fresh.withStatus 500)).run later with
                | mk result last => cases result <;> rfl

/-- A response sets the cookies of the context that drafted it. -/
theorem dispatch_setCookies (site : Site) (now : Int) (params : Dict String) (request : Request)
    (hb : ¬ site.settings.limits.bodySize < request.body.length) :
    ((target.dispatch handler site now params request).run state).1.map Response.setCookies =
      match target.drafted? handler (target.start site now params request) state with
      | some c => c.respond.map Response.setCookies
      | none => .ok [] := by
  rw [dispatch_result, if_neg hb]
  cases target.drafted? handler (target.start site now params request) state <;> rfl

/-- A body that is too large is refused without cookies. -/
theorem dispatch_tooLarge (site : Site) (now : Int) (params : Dict String) (request : Request)
    (hb : site.settings.limits.bodySize < request.body.length) :
    ((target.dispatch handler site now params request).run state).1.map Response.setCookies =
      .ok [] := by
  rw [dispatch_result, if_pos hb]
  rfl

end Target

namespace Server

variable {server : Server S} {around : Surroundings} {request : Request} {state : S}

/-- A request as the targets see it: its path trimmed, with an identifier. -/
def arriving (around : Surroundings) (request : Request) : Request :=
  let id := (request.headers.get? idHeader).getD (Utf8.encode around.requestId)
  let headers :=
    if request.headers.contains idHeader then request.headers
    else request.headers.append idHeader id
  { request with uri := request.uri.trimmed, headers }

/-- What a request leads to and the parameters of its path, unless it leads to files. -/
def target? (server : Server S) (request : Request) : Option (Target S × Dict String) :=
  match server.router.find? request.uri.path with
  | none => some (server.notFound, ∅)
  | some (_, .files _) => none
  | some (params, .methods targets otherwise) =>
      some ((Endpoint.target? targets request.method).getD otherwise, decodedParams params)

/-- The target of a request and the context on which its chain starts, if it has a
target and its body is not too large. -/
def start? (server : Server S) (around : Surroundings) (request : Request) :
    Option (Target S × Context) :=
  (server.target? (arriving around request)).bind fun (target, params) =>
    if server.site.settings.limits.bodySize < request.body.length then none
    else some (target, target.start server.site around.now params (arriving around request))

/-- The context that drafts the response to a request, if there is one. -/
def drafted? (server : Server S) (around : Surroundings) (request : Request) (state : S) :
    Option Context :=
  (server.start? around request).bind fun (target, start) =>
    target.drafted? server.panicHandler start state

theorem setCookies_withDefault {name : String} (h : name ≠ "set-cookie") (r : Response)
    (value : Bytes) : (withDefault r name value).setCookies = r.setCookies := by
  unfold withDefault
  split
  · rfl
  · exact Headers.getAll_set h _ _

theorem setCookies_trimBody (method : String) (r : Response) :
    (trimBody method r).setCookies = r.setCookies := by
  unfold trimBody
  split <;> rfl

theorem setCookies_files (tree : FileTree) (directory : String) (request : Request) :
    (Files.respond tree directory request).setCookies = [] := by
  have hfound : ∀ name content range, (Files.found name content range).setCookies = [] := by
    intro name content range
    unfold Files.found
    dsimp only
    split
    · rfl
    · split
      all_goals rfl
  unfold Files.respond
  dsimp only
  split
  · rfl
  · split
    · rfl
    · split
      · split
        · exact hfound _ _ _
        · rfl
      · split
        · split
          · exact hfound _ _ _
          · rfl
        · rfl

/-- What a target sets as cookies, given the context that drafts its response. -/
theorem dispatch_setCookies (target : Target S) (params : Dict String) :
    ((target.dispatch server.panicHandler server.site around.now params
      (arriving around request)).run state).1.map Response.setCookies =
      match (if server.site.settings.limits.bodySize < request.body.length then none
        else some (target, target.start server.site around.now params
          (arriving around request))).bind
            fun (target, start) => target.drafted? server.panicHandler start state with
      | some c => c.respond.map Response.setCookies
      | none => .ok [] := by
  by_cases hb : server.site.settings.limits.bodySize < request.body.length
  · rw [if_pos hb]
    exact Target.dispatch_tooLarge _ _ _ _ hb
  · rw [if_neg hb]
    exact Target.dispatch_setCookies _ _ _ _ hb

theorem route_setCookies :
    ((server.route around (arriving around request)).run state).1.map Response.setCookies =
      match server.drafted? around request state with
      | some c => c.respond.map Response.setCookies
      | none => .ok [] := by
  unfold route drafted? start? target?
  cases hf : server.router.find? (arriving around request).uri.path with
  | none => exact dispatch_setCookies server.notFound ∅
  | some hit =>
      obtain ⟨params, endpoint⟩ := hit
      cases endpoint with
      | files mount =>
          change Except.ok (Files.respond _ _ _).setCookies = _
          rw [setCookies_files]
          rfl
      | methods targets otherwise =>
          dsimp only
          cases ht : Endpoint.target? targets (arriving around request).method with
          | some target => exact dispatch_setCookies target (decodedParams params)
          | none =>
              have hallow : "allow" ≠ "set-cookie" := by decide
              refine Eq.trans ?_ (dispatch_setCookies otherwise (decodedParams params))
              rw [run_bind_pure]
              cases ((otherwise.dispatch server.panicHandler server.site around.now
                (decodedParams params) (arriving around request)).run state).1 with
              | error panic => rfl
              | ok r => simp only [Except.map, setCookies_withDefault hallow]

/-- A response sets the cookies of the context that drafted it, and no others. -/
theorem handle_setCookies (server : Server S) (around : Surroundings) (request : Request)
    (state : S) :
    ((server.handle around request).run state).1.map Response.setCookies =
      match server.drafted? around request state with
      | some c => c.respond.map Response.setCookies
      | none => .ok [] := by
  have hid : idHeader ≠ "set-cookie" := by decide
  rw [← route_setCookies, handle, run_bind_pure]
  change Except.map _ (Except.map _ ((server.route around (arriving around request)).run
    state).1) = _
  cases ((server.route around (arriving around request)).run state).1 with
  | error panic => rfl
  | ok r => simp only [Except.map, setCookies_withDefault hid, setCookies_trimBody]

/-- A chain starts with nothing drafted, on a request with the cookies that were sent. -/
theorem start?_spec {target : Target S} {start : Context}
    (h : server.start? around request = some (target, start)) :
    start.site = server.site ∧ start.now = around.now ∧
      start.request.cookies = request.cookies ∧ start.headers = [] ∧ start.sessions = [] := by
  obtain ⟨⟨found, params⟩, _, hs⟩ := Option.bind_eq_some_iff.1 h
  dsimp only at hs
  split at hs
  · cases hs
  · cases hs
    refine ⟨rfl, rfl, ?_, rfl, rfl⟩
    have hid : idHeader ≠ "cookie" := by decide
    change Headers.getAll (arriving around request).headers "cookie" = request.cookies
    unfold arriving
    dsimp only
    split
    · rfl
    · rw [Headers.getAll_append, if_neg hid, List.append_nil]
      rfl

theorem isLawful_of_start? {target : Target S} {start : Context} (hl : server.IsLawful)
    (h : server.start? around request = some (target, start)) : target.IsLawful := by
  obtain ⟨⟨found, params⟩, ht, hs⟩ := Option.bind_eq_some_iff.1 h
  have hfound : found.IsLawful := by
    unfold target? at ht
    split at ht
    · cases ht
      exact hl.notFound
    · cases ht
    · rename_i params targets otherwise hf
      obtain ⟨p, hm, _⟩ := Router.mem_of_find? hf
      obtain ⟨htargets, hotherwise⟩ := hl.endpoints _ hm
      cases ht
      cases he : Endpoint.target? targets (arriving around request).method with
      | none => exact hotherwise
      | some target =>
          rw [Endpoint.target?_eq] at he
          obtain ⟨verb, _, hl⟩ := Option.bind_eq_some_iff.1 he
          exact htargets _ (Pairs.mem_of_lookup hl)
  dsimp only at hs
  split at hs
  · cases hs
  · cases hs
    exact hfound

/-- What drafts a response was reached from the start of a chain. -/
theorem steps_of_drafted? {c : Context} (hl : server.IsLawful)
    (h : server.drafted? around request state = some c) :
    ∃ target start, server.start? around request = some (target, start) ∧
      Context.Steps start c := by
  obtain ⟨⟨target, start⟩, hs, hd⟩ := Option.bind_eq_some_iff.1 h
  refine ⟨target, start, hs, ?_⟩
  have ht := isLawful_of_start? hl hs
  obtain ⟨⟨found, params⟩, _, hstart⟩ := Option.bind_eq_some_iff.1 hs
  dsimp only at hstart
  split at hstart
  · cases hstart
  · cases hstart
    exact Target.steps_of_drafted? ht hl.panicHandler hd

end Server

/-- The cookies of a response are those that the store writes for its sessions, unless it ends
at one beyond the calendar. -/
theorem Context.respond_setCookies_of_ne {c : Context} {store : CookieStore}
    (hs : c.site.store = some store)
    (hw : (store.saveAll c.now c.sessions c.headers).2 ≠ some .beyondCalendar) :
    c.respond.map Response.setCookies =
      .ok ((store.saveAll c.now c.sessions c.headers).1.getAll "set-cookie") := by
  have htype : "content-type" ≠ "set-cookie" := by decide
  unfold respond
  simp only [hs, hw, if_false]
  cases store.saveAll c.now c.sessions c.headers with
  | mk headers fault =>
      by_cases hk : (c.body.isEmpty || headers.contains "content-type") = true
      · rw [if_pos hk]
        rfl
      · rw [if_neg hk]
        exact congrArg Except.ok (Headers.getAll_set htype headers _)

/-- Where all sessions can be sent, a response sets the cookies that are written for them. -/
theorem Context.respond_setCookies {c : Context} {store : CookieStore} {headers : Headers}
    (hs : c.site.store = some store)
    (hw : store.saveAll c.now c.sessions c.headers = (headers, none)) :
    c.respond.map Response.setCookies = .ok (headers.getAll "set-cookie") := by
  rw [respond_setCookies_of_ne hs (by rw [hw]; nofun), hw]

end Formwork
