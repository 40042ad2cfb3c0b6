import Formwork.Proofs.Http.Draft
import Formwork.Proofs.Session.Table

/-! # Sessions of a client that browses

A client visits a server any number of times, and keeps its cookies in between. The table
of sessions is kept by the visits alone: each one puts into it the sessions that the
context which drafted the response has modified. The cookies of the client mirror this
table (`Server.Browses.mirrors`), so that what a session is first used with during a
visit is what the table yields, whatever order the client lists its cookies in:
signed cookies do what a table on the server would do
(`Server.Browses.first_useSession`). Two things differ from the simplest such table. After
a panic, the sessions of the panic handler count, and what was signed too long ago is
discarded.
-/

namespace Formwork

variable {S : Type}

/-- The table after a visit, given the context that drafted the response. -/
def SessionTable.after (table : SessionTable) (now : Int) : Option Context → SessionTable
  | some c => table.putAll now c.sessions
  | none => table

namespace Server

variable {server : Server S} {store : CookieStore} {client shuffled : Client}
  {table : SessionTable} {around : Surroundings} {request : Request} {state : S}

/-- A client that held nothing at first has visited the server any number of times. It
sends no cookies but its own and lists them in any order, and what a visit leaves
modified can be sent. The state of the application is whatever it is at each visit. -/
inductive Browses (server : Server S) : Client → SessionTable → Prop
  | start : Browses server {} .empty
  | visit {client shuffled later : Client} {table : SessionTable} {around : Surroundings}
      {request : Request} {state after : S} {response : Response}
      (earlier : Browses server client table)
      (order : shuffled.cookies.Same client.cookies)
      (bare : request.headers.contains "cookie" = false)
      (clock : Word64.IsSigned around.now)
      (sendable : ∀ c, server.drafted? around (shuffled.withCookies request) state = some c →
        ∀ s ∈ c.sessions, s.isModified = true → s.IsSendable around.now)
      (sent : (shuffled.send server around request).run state = (.ok (response, later), after)) :
      Browses server later
        (table.after around.now (server.drafted? around (shuffled.withCookies request) state))

/-- A visit that leaves nothing unfit to be sent gets a response, whose cookies bring a
client from the table before to the table after the visit. -/
theorem handle_of_sendable (hl : server.IsLawful) (hs : server.site.store = some store)
    (clock : Word64.IsSigned around.now)
    (sendable : ∀ c, server.drafted? around request state = some c →
      ∀ s ∈ c.sessions, s.isModified = true → s.IsSendable around.now) :
    ∃ response after, (server.handle around request).run state = (.ok response, after) ∧
      ∀ client table, client.Mirrors store table →
        (response.setCookies.foldl Client.keep client).Mirrors store
          (table.after around.now (server.drafted? around request state)) := by
  have hcookies := handle_setCookies server around request state
  obtain ⟨cookies, hset, hmirror⟩ : ∃ cookies : List Bytes,
      ((server.handle around request).run state).1.map Response.setCookies = .ok cookies ∧
        ∀ client table, client.Mirrors store table →
          (cookies.foldl Client.keep client).Mirrors store
            (table.after around.now (server.drafted? around request state)) := by
    cases hd : server.drafted? around request state with
    | none =>
        rw [hd] at hcookies
        exact ⟨[], hcookies, fun client table h => h⟩
    | some c =>
        rw [hd] at hcookies
        obtain ⟨target, start, harrives, hsteps⟩ := steps_of_drafted? hl hd
        obtain ⟨hsite, hnow, _, hheaders, _⟩ := start?_spec harrives
        obtain ⟨hksite, hknow, _⟩ := hsteps.keeps
        have hquiet : c.headers.getAll "set-cookie" = [] := by
          rw [hsteps.quiet, hheaders]
          rfl
        obtain ⟨cookies, hall, hmirror⟩ :=
          @Client.Mirrors.keep_saved store _ _ (sendable c hd) clock c.headers
        have hstore : c.site.store = some store := by rw [hksite, hsite, hs]
        rw [← hnow, ← hknow] at hall
        have hrespond := Context.respond_setCookies hstore hall
        rw [Headers.getAll_append_same, hquiet, List.nil_append] at hrespond
        exact ⟨cookies, hcookies.trans hrespond, hmirror⟩
  cases hr : (server.handle around request).run state with
  | mk result after =>
      rw [hr] at hset
      obtain ⟨response, he, hresponse⟩ := map_eq_ok.1 hset
      dsimp only at he
      subst he
      exact ⟨response, after, rfl, hresponse ▸ hmirror⟩

/-- Sending a request is handling it and keeping the cookies. -/
theorem run_send {response : Response} {after : S}
    (h : (server.handle around (client.withCookies request)).run state = (.ok response, after)) :
    (client.send server around request).run state =
      (.ok (response, response.setCookies.foldl Client.keep client), after) := by
  rw [Client.send, run_bind_pure, h]
  rfl

/-- After any number of visits, the cookies of the client mirror the table. -/
theorem Browses.mirrors (hl : server.IsLawful) (hs : server.site.store = some store)
    (h : server.Browses client table) : client.Mirrors store table := by
  induction h with
  | start => exact Client.Mirrors.empty store
  | visit earlier order bare clock sendable sent ih =>
      obtain ⟨response, after, hr, hmirror⟩ := handle_of_sendable hl hs clock sendable
      rw [run_send hr] at sent
      cases sent
      exact hmirror _ _ (ih.same order)

/-- A visit that leaves nothing unfit to be sent can always be made. -/
theorem Browses.exists_visit (hl : server.IsLawful) (hs : server.site.store = some store)
    (h : server.Browses client table) (order : shuffled.cookies.Same client.cookies)
    (bare : request.headers.contains "cookie" = false) (clock : Word64.IsSigned around.now)
    (sendable : ∀ c, server.drafted? around (shuffled.withCookies request) state = some c →
      ∀ s ∈ c.sessions, s.isModified = true → s.IsSendable around.now) :
    ∃ response later after,
      (shuffled.send server around request).run state = (.ok (response, later), after) ∧
        server.Browses later
          (table.after around.now (server.drafted? around (shuffled.withCookies request) state)) := by
  obtain ⟨response, after, hr, _⟩ := handle_of_sendable hl hs clock sendable
  have hsent := run_send hr
  exact ⟨response, _, after, hsent, h.visit order bare clock sendable hsent⟩

theorem changeSession_eq_none {α : Type} {name : String} (f : Session → α × Session)
    {sessions : List Session} (h : ∀ s ∈ sessions, s.name ≠ name) :
    Context.changeSession name f sessions = none := by
  induction sessions with
  | nil => rfl
  | cons s sessions ih =>
      have hs : s.name ≠ name := h s List.mem_cons_self
      simp only [Context.changeSession, hs, if_false,
        ih fun other ho => h other (List.mem_cons_of_mem _ ho), Option.map_none]

/-- When a chain starts, no session has been used. -/
theorem unused_of_start? {target : Target S} {start : Context}
    (h : server.start? around request = some (target, start)) (name : String) :
    ∀ s ∈ start.sessions, s.name ≠ name := by
  rw [(start?_spec h).2.2.2.2]
  intro s hs
  cases hs

/-- What a session is first used with, for a client whose cookies mirror a table. -/
theorem useSession_of_mirrors {target : Target S} {start c : Context} {name : String}
    (hs : server.site.store = some store) (hd : store.defaults = {})
    (h : client.Mirrors store table) (bare : request.headers.contains "cookie" = false)
    (arrives : server.start? around (client.withCookies request) = some (target, start))
    (steps : Context.Steps start c) (first : ∀ s ∈ c.sessions, s.name ≠ name) :
    ∃ s, table.Yields name around.now s ∧ ∀ {α : Type} (f : Session → α × Session),
      c.useSession name f = .ok ((f s).1, { c with sessions := c.sessions ++ [(f s).2] }) := by
  obtain ⟨hsite, hnow, hcookies, _, _⟩ := start?_spec arrives
  obtain ⟨hksite, hknow, hkrequest⟩ := steps.keeps
  have hstore : c.site.store = some store := by rw [hksite, hsite, hs]
  refine ⟨store.load name c.request.cookies c.now, ?_, fun f => ?_⟩
  · rw [hkrequest, hcookies, hknow, hnow]
    exact h.load hd bare name
  · simp only [Context.useSession, hstore, changeSession_eq_none f first]

end Server

/-! ## Two small applications -/

namespace App

/-- Settings with a key for sessions. -/
def keyed : Settings := { sessionKey := "k" }

/-- A request without headers. -/
def visitor : Request := { method := "GET", uri := { path := "/" } }

/-- Keeps a user in a session. -/
def signIn (c : Context) : Context :=
  match c.useSession "sid" fun s => ((), s.set "user" (.string "ana")) with
  | .ok (_, c) => c
  | .error _ => c

theorem steps_signIn (c : Context) : Context.Steps c (signIn c) := by
  unfold signIn
  split
  · rename_i next h
    exact .single (.session (f := fun s => ((), s.set "user" (.string "ana"))) (fun s => rfl) h)
  · exact .refl

/-- Every request signs in. -/
def welcome : App Unit := { notFound := some fun c => return signIn c }

/-- Every request panics, and the panic handler signs in. -/
def broken : App Unit :=
  { notFound := some fun _ => throw .other
    panicHandler := some fun _ c => return signIn c }

theorem isLawful_welcome : welcome.IsLawful where
  middlewares := fun _ h => nomatch h
  routes := fun _ h => nomatch h
  notFound := by
    intro action ha c state d later h
    cases ha
    cases h
    exact steps_signIn c
  methodNotAllowed := fun _ h => nomatch h
  panicHandler := fun _ h => nomatch h

theorem isLawful_broken : broken.IsLawful where
  middlewares := fun _ h => nomatch h
  routes := fun _ h => nomatch h
  notFound := by
    intro action ha c state d later h
    cases ha
    cases h
  methodNotAllowed := fun _ h => nomatch h
  panicHandler := by
    intro handler hh message c state d later h
    cases hh
    cases h
    exact steps_signIn c

/-- The server that an application without routes becomes. -/
def serverOf (app : App Unit) : Server Unit :=
  { site := ⟨keyed, ⟨∅⟩, some ⟨Utf8.encode "k", {}⟩⟩
    router := {}
    notFound := ⟨"none", [], app.notFound.getD defaultNotFound, 404⟩
    panicHandler := app.panicHandler }

/-- Without routes, every request starts the chain for what is not found. -/
theorem start?_serverOf (app : App Unit) (around : Surroundings) (client : Client) :
    ∃ start, (serverOf app).start? around (client.withCookies visitor) =
      some ((serverOf app).notFound, start) := by
  have hbody : (client.withCookies visitor).body = [] := by
    unfold Client.withCookies
    split <;> rfl
  refine ⟨(serverOf app).notFound.start (serverOf app).site around.now ∅
    (Server.arriving around (client.withCookies visitor)), ?_⟩
  change (if (serverOf app).site.settings.limits.bodySize <
    (client.withCookies visitor).body.length then none else some _) = some _
  rw [hbody]
  rfl

/-- The session of a client that has just signed in. -/
def signedIn : Session := (Session.fresh "sid" {} none).set "user" (.string "ana")

theorem isSendable_signedIn : signedIn.IsSendable 1000 where
  name := by decide
  values := by
    intro member hm
    cases List.mem_singleton.1 hm
    exact .string "ana"
  canonical := rfl
  path := by decide
  domain := fun _ h => nomatch h
  lifetime := by decide

/-- Where the first visit signs in, the client and the table know it. -/
theorem exists_signedIn {app : App Unit} {c : Context} (hl : (serverOf app).IsLawful)
    (hd : (serverOf app).drafted? ⟨1000, "a", {}⟩ (({} : Client).withCookies visitor) () = some c)
    (hc : c.sessions = [signedIn]) :
    ∃ response client table,
      (({} : Client).send (serverOf app) ⟨1000, "a", {}⟩ visitor).run () =
        (.ok (response, client), ()) ∧
      (serverOf app).Browses client table ∧
      table "sid" = some ⟨[("user", .string "ana")], 1000, ({} : CookieOptions).maxAge⟩ := by
  have hsend : ∀ d, (serverOf app).drafted? ⟨1000, "a", {}⟩
      (({} : Client).withCookies visitor) () = some d →
        ∀ s ∈ d.sessions, s.isModified = true → s.IsSendable 1000 := by
    intro d hdraft s hs _
    rw [hd] at hdraft
    cases hdraft
    rw [hc] at hs
    cases List.mem_singleton.1 hs
    exact isSendable_signedIn
  obtain ⟨response, client, _, hsent, hrun⟩ := Server.Browses.start.exists_visit hl rfl
    (fun _ => rfl) rfl (by decide) hsend
  refine ⟨response, client, _, hsent, hrun, ?_⟩
  rw [hd, SessionTable.after, hc]
  rfl

end App

namespace Server

variable {server : Server S} {client shuffled : Client} {table : SessionTable}
  {around : Surroundings} {request : Request}

/-- The first use of a session during a visit, by the chain or by the panic handler, sees
exactly what the table yields under its name. -/
theorem Browses.first_useSession {app : App S} {settings : Settings} {s₀ s₁ : S}
    {target : Target S} {start c : Context} {name : String}
    (built : (app.build settings).run s₀ = (.ok server, s₁)) (lawful : app.IsLawful)
    (key : settings.sessionKey.isEmpty = false) (earlier : server.Browses client table)
    (order : shuffled.cookies.Same client.cookies)
    (bare : request.headers.contains "cookie" = false)
    (arrives : server.start? around (shuffled.withCookies request) = some (target, start))
    (steps : Context.Steps start c) (first : ∀ s ∈ c.sessions, s.name ≠ name) :
    ∃ s, table.Yields name around.now s ∧ ∀ {α : Type} (f : Session → α × Session),
      c.useSession name f = .ok ((f s).1, { c with sessions := c.sessions ++ [(f s).2] }) := by
  obtain ⟨hl, hs⟩ := App.isLawful_of_build lawful built
  rw [App.storeOf, key] at hs
  exact useSession_of_mirrors hs rfl ((earlier.mirrors hl hs).same order) bare arrives steps first

/-- A client that has signed in is known on its next visit. -/
theorem welcome_knows_user :
    ∃ client target start c,
      (App.welcome.build App.keyed).run () = (.ok (App.serverOf App.welcome), ()) ∧
      (∃ table, (App.serverOf App.welcome).Browses client table) ∧
      (App.serverOf App.welcome).start? ⟨2000, "b", {}⟩ (client.withCookies App.visitor) =
        some (target, start) ∧
      start.useSession "sid" (fun s => (s.get? "user", s)) = .ok (some (.string "ana"), c) := by
  have hb : (App.welcome.build App.keyed).run () = (.ok (App.serverOf App.welcome), ()) := rfl
  obtain ⟨hl, hs⟩ := App.isLawful_of_build App.isLawful_welcome hb
  obtain ⟨response, client, table, hsent, hrun, htable⟩ := App.exists_signedIn hl rfl rfl
  obtain ⟨start, hstart⟩ := App.start?_serverOf App.welcome ⟨2000, "b", {}⟩ client
  obtain ⟨s, hyields, huse⟩ := hrun.first_useSession hb App.isLawful_welcome (by decide)
    (fun _ => rfl) rfl hstart .refl (unused_of_start? hstart "sid")
  cases hyields.eq_loaded htable (by decide)
  exact ⟨client, _, start, _, hb, ⟨table, hrun⟩, hstart, huse fun s => (s.get? "user", s)⟩

/-- A visit whose chain panicked can leave a session behind, that of the panic handler: it
is there on the next visit. It is there in vain on a visit that comes too late, where it
reads as a new one with an error. -/
theorem broken_signs_in :
    ∃ response client target start,
      (App.broken.build App.keyed).run () = (.ok (App.serverOf App.broken), ()) ∧
      (App.serverOf App.broken).start? ⟨1000, "a", {}⟩ (({} : Client).withCookies App.visitor) =
        some (target, start) ∧
      ((Target.runChain target.action target.middlewares start).run ()).1 = .error .other ∧
      (({} : Client).send (App.serverOf App.broken) ⟨1000, "a", {}⟩ App.visitor).run () =
        (.ok (response, client), ()) ∧
      (∃ later next c,
        (App.serverOf App.broken).start? ⟨2000, "b", {}⟩ (client.withCookies App.visitor) =
          some (later, next) ∧
        next.useSession "sid" (fun s => ((s.isNew, s.loadError), s)) = .ok ((false, none), c)) ∧
      ∃ later next c,
        (App.serverOf App.broken).start? ⟨2593001, "c", {}⟩ (client.withCookies App.visitor) =
          some (later, next) ∧
        next.useSession "sid" (fun s => ((s.isNew, s.loadError), s)) =
          .ok ((true, some .expired), c) := by
  have hb : (App.broken.build App.keyed).run () = (.ok (App.serverOf App.broken), ()) := rfl
  obtain ⟨hl, hs⟩ := App.isLawful_of_build App.isLawful_broken hb
  obtain ⟨response, client, table, hsent, hrun, htable⟩ := App.exists_signedIn hl rfl rfl
  obtain ⟨start, hstart⟩ := App.start?_serverOf App.broken ⟨1000, "a", {}⟩ {}
  have hfirst : ∀ around, ∃ next s c,
      (App.serverOf App.broken).start? around (client.withCookies App.visitor) =
        some ((App.serverOf App.broken).notFound, next) ∧
      table.Yields "sid" around.now s ∧
      next.useSession "sid" (fun s => ((s.isNew, s.loadError), s)) =
        .ok ((s.isNew, s.loadError), c) := by
    intro around
    obtain ⟨next, hnext⟩ := App.start?_serverOf App.broken around client
    obtain ⟨s, hyields, huse⟩ := useSession_of_mirrors hs rfl (hrun.mirrors hl hs) rfl hnext .refl
      (unused_of_start? hnext "sid")
    exact ⟨next, s, _, hnext, hyields, huse _⟩
  obtain ⟨soon, s, c, hsoon, hknown, husesoon⟩ := hfirst ⟨2000, "b", {}⟩
  obtain ⟨late, t, d, hlate, hover, huselate⟩ := hfirst ⟨2593001, "c", {}⟩
  cases hknown.eq_loaded htable (by decide)
  cases hover.eq_expired htable (by decide)
  exact ⟨response, client, _, start, hb, hstart, rfl, hsent, ⟨_, soon, c, hsoon, husesoon⟩,
    _, late, d, hlate, huselate⟩

end Server

end Formwork
