import Formwork.Proofs.Form.Pairs
import Formwork.Proofs.Http.Saving

/-! # Sessions in use

A context keeps one session for each name that was used, in order of first use, and each is
what the uses of its name alone have made of what the store loaded
(`Context.Runs.sessions`). So every use sees the effects of all earlier uses of its name and
of no others, and a response that can be made up has one cookie for each name whose session
ends up different from the one that was loaded (`Server.handle_of_runs`).
-/

namespace Formwork

/-- Uses of sessions in order, by name: what each makes of the session that it sees. -/
abbrev SessionUses := List (String × (Session → Session))

/-! ## One session -/

namespace Session

variable {s t u : Session}

theorem Alters.trans (hs : s.Alters t) (ht : t.Alters u) : s.Alters u := by
  unfold Alters at *
  rw [ht, hs]

/-- Values and options apart, a session remains what it was. -/
theorem Alters.keeps (h : s.Alters t) :
    t.name = s.name ∧ t.loadedValues = s.loadedValues ∧ t.loadedOptions = s.loadedOptions := by
  rw [h]
  exact ⟨rfl, rfl, rfl⟩

theorem alters_foldl {changes : List (Session → Session)}
    (h : ∀ change ∈ changes, ∀ s, Alters s (change s)) (s : Session) :
    s.Alters (changes.foldl (fun s change => change s) s) := by
  induction changes generalizing s with
  | nil => rfl
  | cons change changes ih =>
      rw [List.forall_mem_cons] at h
      exact (h.1 s).trans (ih h.2 _)

end Session

namespace CookieStore

variable {store : CookieStore} {cookies : List Bytes} {now : Int} {uses : SessionUses}

/-- What uses have made of the session of a name that was loaded from cookies. -/
def live (store : CookieStore) (cookies : List Bytes) (now : Int) (uses : SessionUses)
    (name : String) : Session :=
  (valuesOf name uses).foldl (fun s change => change s) (store.load name cookies now)

/-- The sessions of the names that were used, in order of first use. -/
def liveAll (store : CookieStore) (cookies : List Bytes) (now : Int) (uses : SessionUses) :
    List Session :=
  (keysOf uses).map (store.live cookies now uses)

/-- The names, in order of first use, whose sessions have other values or options than were
loaded. -/
def changed (store : CookieStore) (cookies : List Bytes) (now : Int) (uses : SessionUses) :
    List String :=
  (keysOf uses).filter fun name =>
    let loaded := store.load name cookies now
    let live := store.live cookies now uses name
    Json.object live.values != Json.object loaded.values || live.options != loaded.options

/-- A session is loaded under its name, and remembers what it was loaded with. -/
theorem load_spec (store : CookieStore) (name : String) (cookies : List Bytes) (now : Int) :
    (store.load name cookies now).name = name ∧
      (store.load name cookies now).loadedValues = (store.load name cookies now).values ∧
      (store.load name cookies now).loadedOptions = (store.load name cookies now).options := by
  unfold load
  split
  · exact ⟨rfl, rfl, rfl⟩
  · split <;> exact ⟨rfl, rfl, rfl⟩

theorem alters_live (h : ∀ use ∈ uses, ∀ s : Session, s.Alters (use.2 s)) (name : String) :
    (store.load name cookies now).Alters (store.live cookies now uses name) := by
  apply Session.alters_foldl
  intro change hm
  obtain ⟨use, hu, rfl⟩ := List.mem_map.1 hm
  exact h use (List.mem_of_mem_filter hu)

/-- A session is modified if it differs from what was loaded. -/
theorem filter_isModified_live (h : ∀ use ∈ uses, ∀ s : Session, s.Alters (use.2 s)) :
    (store.liveAll cookies now uses).filter Session.isModified =
      (store.changed cookies now uses).map (store.live cookies now uses) := by
  rw [liveAll, List.filter_map, changed]
  congr 1
  apply List.filter_congr
  intro name _
  obtain ⟨_, hvalues, hoptions⟩ := (@alters_live store cookies now uses h name).keeps
  obtain ⟨_, hloaded, hdefaults⟩ := store.load_spec name cookies now
  show Session.isModified _ = _
  rw [Session.isModified, hvalues, hoptions, hloaded, hdefaults]

theorem live_concat (uses : SessionUses) (name : String) (change : Session → Session) :
    store.live cookies now (uses ++ [(name, change)]) = fun other =>
      if name = other then change (store.live cookies now uses other)
      else store.live cookies now uses other := by
  funext other
  rw [live, live, valuesOf_append, valuesOf_cons]
  by_cases h : name = other
  · simp [h]
  · simp [h]

theorem live_of_not_mem {name : String} (h : name ∉ keysOf uses) :
    store.live cookies now uses name = store.load name cookies now := by
  rw [live, valuesOf_eq_nil_iff.2 h]
  rfl

/-- One more use changes the session of its name, which is loaded at its first use. -/
theorem liveAll_concat (uses : SessionUses) (name : String) (change : Session → Session) :
    store.liveAll cookies now (uses ++ [(name, change)]) =
      if name ∈ keysOf uses then
        (keysOf uses).map fun other =>
          if name = other then change (store.live cookies now uses other)
          else store.live cookies now uses other
      else store.liveAll cookies now uses ++ [change (store.load name cookies now)] := by
  rw [liveAll, liveAll, live_concat]
  by_cases hm : name ∈ keysOf uses
  · rw [if_pos hm, keysOf_concat_of_mem hm]
  · rw [if_neg hm, keysOf_concat_of_not_mem hm, List.map_append, List.map_singleton, if_pos rfl,
      live_of_not_mem hm]
    congr 1
    apply List.map_congr_left
    intro other ho
    rw [if_neg]
    rintro rfl
    exact hm ho

end CookieStore

/-! ## The sessions of a context -/

namespace Context

variable {α : Type} {begin c d : Context} {uses : SessionUses} {store : CookieStore}

/-- A context was reached by uses of sessions, with anything drafted in between. -/
inductive Runs (begin : Context) : SessionUses → Context → Prop
  | begin : Runs begin [] begin
  | draft {uses : SessionUses} {c : Context} (earlier : Runs begin uses c) (status : Nat)
      (headers : Headers) (body : Bytes) (shared : Dict Json) :
      Runs begin uses { c with status, headers, body, shared }
  | use {uses : SessionUses} {c d : Context} {α : Type} {name : String}
      {f : Session → α × Session} {result : α} (earlier : Runs begin uses c)
      (alters : ∀ s : Session, s.Alters (f s).2) (used : c.useSession name f = .ok (result, d)) :
      Runs begin (uses ++ [(name, fun s => (f s).2)]) d

/-- The first session of a name is the one that is used, and no other is touched. -/
theorem changeSession_map {names : List String} {g : String → Session}
    (hg : ∀ other, (g other).name = other) (nodup : names.Nodup) (name : String)
    (f : Session → α × Session) :
    changeSession name f (names.map g) =
      if name ∈ names then
        some ((f (g name)).1,
          names.map fun other => if name = other then (f (g other)).2 else g other)
      else none := by
  induction names with
  | nil => rfl
  | cons first names ih =>
      rw [List.nodup_cons] at nodup
      rw [List.map_cons, changeSession, hg]
      by_cases h : first = name
      · subst h
        have hrest : ∀ other ∈ names,
            g other = if first = other then (f (g other)).2 else g other := by
          intro other ho
          rw [if_neg]
          rintro rfl
          exact nodup.1 ho
        simp [List.map_congr_left hrest]
      · have hne : name ≠ first := Ne.symm h
        rw [if_neg h, ih nodup.2]
        by_cases hm : name ∈ names
        · simp [hm, hne]
        · simp [hm, hne]

theorem Runs.keeps (h : Runs begin uses c) :
    c.site = begin.site ∧ c.now = begin.now ∧ c.request = begin.request := by
  induction h with
  | begin => exact ⟨rfl, rfl, rfl⟩
  | draft _ _ _ _ _ ih => exact ih
  | use _ _ used ih =>
      obtain ⟨sessions, rfl⟩ := useSession_eq_ok used
      exact ih

theorem Runs.alters (h : Runs begin uses c) : ∀ use ∈ uses, ∀ s : Session, s.Alters (use.2 s) := by
  induction h with
  | begin => nofun
  | draft _ _ _ _ _ ih => exact ih
  | use _ alters _ ih =>
      intro use hu s
      rcases List.mem_append.1 hu with hu | hu
      · exact ih use hu s
      · cases List.mem_singleton.1 hu
        exact alters s

/-- A use sees what the earlier uses of its name have made of what was loaded, and adds its own
effect to it. -/
theorem useSession_live (hs : c.site.store = some store)
    (alters : ∀ use ∈ uses, ∀ s : Session, s.Alters (use.2 s))
    (hc : c.sessions = store.liveAll c.request.cookies c.now uses) (name : String)
    (f : Session → α × Session) :
    c.useSession name f = .ok ((f (store.live c.request.cookies c.now uses name)).1,
      { c with sessions := store.liveAll c.request.cookies c.now
                (uses ++ [(name, fun s => (f s).2)]) }) := by
  have hname : ∀ other, (store.live c.request.cookies c.now uses other).name = other :=
    fun other => (CookieStore.alters_live alters other).keeps.1.trans (store.load_spec other _ _).1
  unfold useSession
  rw [hs, hc]
  dsimp only
  rw [CookieStore.liveAll_concat, CookieStore.liveAll, changeSession_map hname (nodup_keysOf uses)]
  by_cases hm : name ∈ keysOf uses
  · rw [if_pos hm, if_pos hm]
  · rw [if_neg hm, if_neg hm, CookieStore.live_of_not_mem hm]

/-- The sessions of a context are those of the names that were used, in order of first use. -/
theorem Runs.sessions (h : Runs begin uses c) (hs : begin.site.store = some store)
    (empty : begin.sessions = []) :
    c.sessions = store.liveAll begin.request.cookies begin.now uses := by
  induction h with
  | begin => exact empty
  | draft _ _ _ _ _ ih => exact ih
  | @use uses c d α name f result earlier alters used ih =>
      obtain ⟨hsite, hnow, hrequest⟩ := earlier.keeps
      rw [← hnow, ← hrequest] at ih ⊢
      rw [useSession_live (by rw [hsite, hs]) earlier.alters ih] at used
      cases used
      rfl

end Context

/-! ## The cookies of a response -/

namespace CookieStore

variable {store : CookieStore} {now : Int} {s : Session} {cookie : Bytes}

/-- The cookie is what the store writes for the session, and begins with its name. -/
def Sends (store : CookieStore) (now : Int) (s : Session) (cookie : Bytes) : Prop :=
  ∃ text more, store.save s now = .ok (some text) ∧ cookie = Utf8.encode text ∧
    text.toList = s.name.toList ++ '=' :: more

/-- A session that can be sent has a cookie exactly if it is modified. -/
theorem cookie?_of_not_fails (h : store.fails now s = false) :
    (∃ text, store.cookie? now s = some text ∧ store.Sends now s (Utf8.encode text)) ∧
        s.isModified = true ∨
      store.cookie? now s = none ∧ s.isModified = false := by
  cases hm : s.isModified with
  | false =>
      right
      rw [cookie?, save, hm]
      exact ⟨rfl, rfl⟩
  | true =>
      left
      cases hs : store.save s now with
      | error fault =>
          rw [fails, hs] at h
          cases h
      | ok saved =>
          have hrender := hs
          rw [save, hm, if_pos rfl] at hrender
          dsimp only at hrender
          split at hrender
          · cases hrender
          · rename_i text htext
            split at hrender
            · cases hrender
              obtain ⟨more, hmore, _⟩ := CookieOptions.toList_of_render? htext
              rw [Cookie.toList_pairText, List.append_assoc] at hmore
              refine ⟨⟨text, ?_, text, _, hs, rfl, hmore⟩, rfl⟩
              rw [cookie?, hs]
            · cases hrender

theorem forall₂_cookies {sessions : List Session} (h : ∀ s ∈ sessions, store.fails now s = false) :
    List.Forall₂ (store.Sends now) (sessions.filter Session.isModified)
      (store.cookies now sessions) := by
  induction sessions with
  | nil => exact .nil
  | cons s sessions ih =>
      rw [List.forall_mem_cons] at h
      rw [cookies_cons]
      rcases cookie?_of_not_fails h.1 with ⟨⟨text, hc, hsends⟩, hm⟩ | ⟨hc, hm⟩
      · rw [hc, List.filter_cons_of_pos hm]
        exact .cons hsends (ih h.2)
      · rw [hc, List.filter_cons_of_neg (by simp [hm])]
        exact ih h.2

end CookieStore

namespace Context

variable {begin c : Context} {uses : SessionUses} {store : CookieStore}

/-- A response for which all sessions can be sent has a cookie for each name whose session was
changed, in order of first use, behind those that were drafted as headers. -/
theorem Runs.respond (h : Runs begin uses c) (hs : begin.site.store = some store)
    (empty : begin.sessions = [])
    (sent : ∀ name ∈ keysOf uses,
      store.fails begin.now (store.live begin.request.cookies begin.now uses name) = false) :
    ∃ cookies, c.respond.map Response.setCookies =
        .ok (c.headers.getAll "set-cookie" ++ cookies) ∧
      List.Forall₂ (fun name => store.Sends begin.now
          (store.live begin.request.cookies begin.now uses name))
        (store.changed begin.request.cookies begin.now uses) cookies := by
  have hc := h.sessions hs empty
  obtain ⟨hsite, hnow, _⟩ := h.keeps
  have hcs : c.site.store = some store := by rw [hsite, hs]
  have hsent : ∀ s ∈ c.sessions, store.fails c.now s = false := by
    intro s hm
    rw [hc] at hm
    obtain ⟨name, hn, rfl⟩ := List.mem_map.1 hm
    rw [hnow]
    exact sent name hn
  have htimely : ¬ c.IsOverdue := by
    rw [isOverdue_iff hcs, CookieStore.saveAll_eq_fault_iff]
    rintro ⟨before, s, after, hsplit, _, hf⟩
    have hm : s ∈ c.sessions := by simp [hsplit]
    have hfails := hsent s hm
    rw [CookieStore.fails, hf] at hfails
    cases hfails
  have hall : c.sessions.takeWhile (fun s => !store.fails c.now s) = c.sessions :=
    List.takeWhile_eq_self_iff.2 fun s hm => by simp [hsent s hm]
  refine ⟨_, respond_cookies hcs htimely, ?_⟩
  have hcookies := CookieStore.forall₂_cookies hsent
  rw [hc, CookieStore.filter_isModified_live h.alters, List.forall₂_map_left_iff, hnow] at hcookies
  rw [hall, hc, hnow]
  exact hcookies

theorem Steps.exists_runs (h : Steps begin c) : ∃ uses, Runs begin uses c := by
  induction h with
  | refl => exact ⟨[], .begin⟩
  | tail _ step ih =>
      obtain ⟨uses, h⟩ := ih
      cases step with
      | draft status body shared _ => exact ⟨uses, h.draft status _ body shared⟩
      | session alters used => exact ⟨_, h.use alters used⟩

end Context

variable {S : Type}

/-- Where the context that drafts a response began: at the start of the chain, or, after a
panic, afresh. -/
def Target.origin (target : Target S) (start : Context) (state : S) : Context :=
  match (runChain target.action target.middlewares start).run state with
  | (.ok _, _) => start
  | (.error _, _) => start.fresh.withStatus 500

theorem Target.exists_runs_of_drafted? {target : Target S} {handler : Option (PanicHandler S)}
    {start c : Context} {state : S} (ht : target.IsLawful)
    (hh : ∀ h ∈ handler, PanicHandler.IsLawful h)
    (hd : target.drafted? handler start state = some c) :
    ∃ uses, Context.Runs (target.origin start state) uses c := by
  obtain ⟨result, later, hrun⟩ : ∃ result later,
      (runChain target.action target.middlewares start).run state = (result, later) := ⟨_, _, rfl⟩
  rw [drafted?, hrun] at hd
  rw [origin, hrun]
  cases result with
  | ok d =>
      cases hd
      exact (runChain_steps ht.middlewares ht.action _ _ _ _ hrun).exists_runs
  | error panic =>
      obtain ⟨h, hm, hd⟩ := Option.bind_eq_some_iff.1 hd
      split at hd
      · rename_i hrecovered
        cases hd
        exact (hh h hm _ _ _ _ _ hrecovered).exists_runs
      · cases hd

namespace Server

variable {app : App S} {settings : Settings} {server : Server S} {s₀ s₁ : S}
  {around : Surroundings} {request : Request} {target : Target S} {start : Context}

/-- With a key for sessions, every use of a session in a chain, or after a panic in the panic
handler, sees what the uses of the same name before it there have made of the session that the
request brought. The response to the request is drafted by the chain or by the handler; it has
a cookie for each name whose session was changed there, unless one of them cannot be sent, and
none if nobody drafts it. -/
theorem handle_of_runs (built : (app.build settings).run s₀ = (.ok server, s₁))
    (key : settings.sessionKey.isEmpty = false)
    (arrives : server.start? around request = some (target, start)) :
    ∃ store, server.site.store = some store ∧
      (∀ begin uses c, begin = start ∨ begin = start.fresh.withStatus 500 →
        Context.Runs begin uses c → ∀ (α : Type) (name : String) (f : Session → α × Session),
          ∃ d, c.useSession name f =
            .ok ((f (store.live request.cookies around.now uses name)).1, d)) ∧
      (∀ state c uses, server.drafted? around request state = some c →
        Context.Runs (target.origin start state) uses c →
        (∀ name ∈ keysOf uses, store.fails around.now
          (store.live request.cookies around.now uses name) = false) →
        ∃ cookies, ((server.handle around request).run state).1.map Response.setCookies =
            .ok (c.headers.getAll "set-cookie" ++ cookies) ∧
          List.Forall₂ (fun name => store.Sends around.now
              (store.live request.cookies around.now uses name))
            (store.changed request.cookies around.now uses) cookies) ∧
      (∀ state, server.drafted? around request state = none →
        ((server.handle around request).run state).1.map Response.setCookies = .ok []) ∧
      (app.IsLawful → ∀ state c, server.drafted? around request state = some c →
        ∃ uses, Context.Runs (target.origin start state) uses c) := by
  have hb := App.isBuilt_of_build built
  have hs : server.site.store = some ⟨Utf8.encode settings.sessionKey, {}⟩ := by
    rw [hb.site.2, App.storeOf, key]
    rfl
  obtain ⟨hsite, hnow, hcookies, _, hsessions⟩ := start?_spec arrives
  -- what holds of both beginnings
  have hbegins : ∀ begin, begin = start ∨ begin = start.fresh.withStatus 500 →
      begin.site.store = some ⟨Utf8.encode settings.sessionKey, {}⟩ ∧ begin.now = around.now ∧
        begin.request.cookies = request.cookies ∧ begin.sessions = [] := by
    rintro begin (rfl | rfl)
    · exact ⟨by rw [hsite, hs], hnow, hcookies, hsessions⟩
    · exact ⟨(congrArg Site.store hsite).trans hs, hnow, hcookies, rfl⟩
  have horigin : ∀ state, target.origin start state = start ∨
      target.origin start state = start.fresh.withStatus 500 := by
    intro state
    unfold Target.origin
    split
    · exact .inl rfl
    · exact .inr rfl
  refine ⟨_, hs, fun begin uses c hbegin hruns α name f => ?_,
    fun state c uses hd hruns hsent => ?_, fun state hd => ?_, fun lawful state c hd => ?_⟩
  · obtain ⟨hstore, htime, hsame, hempty⟩ := hbegins begin hbegin
    obtain ⟨hksite, hknow, hkrequest⟩ := hruns.keeps
    have hlive := hruns.sessions hstore hempty
    rw [← hkrequest, ← hknow] at hlive
    have huse := Context.useSession_live (by rw [hksite, hstore]) hruns.alters hlive name f
    rw [hkrequest, hknow, hsame, htime] at huse
    exact ⟨_, huse⟩
  · obtain ⟨hstore, htime, hsame, hempty⟩ := hbegins _ (horigin state)
    rw [handle_setCookies, hd]
    rw [← htime, ← hsame] at hsent ⊢
    exact hruns.respond hstore hempty hsent
  · rw [handle_setCookies, hd]
  · have hlawful := (App.isLawful_of_build lawful built).1
    have ht := isLawful_of_start? hlawful arrives
    rw [drafted?, arrives] at hd
    exact Target.exists_runs_of_drafted? ht hlawful.panicHandler hd

end Server

/-! ## Changes that are taken back, and changes that are lost -/

namespace App

/-- Uses a session for the sake of what it does to it. -/
def useFor (name : String) (change : Session → Session) (c : Context) : Context :=
  match c.useSession name fun s => ((), change s) with
  | .ok (_, c) => c
  | .error _ => c

/-- Tries the dark on, signs in, and takes the dark off. -/
def tryOn (c : Context) : Context :=
  useFor "theme" (·.delete "dark")
    (useFor "sid" (·.set "user" (.string "ana")) (useFor "theme" (·.set "dark" (.bool true)) c))

/-- The same, one use after the other. -/
def trying : SessionUses :=
  [("theme", (·.set "dark" (.bool true))), ("sid", (·.set "user" (.string "ana"))),
    ("theme", (·.delete "dark"))]

def undecided : App Unit := { notFound := some fun c => return tryOn c }

/-- The user of a session. -/
def userOf (c : Context) : Option Json :=
  match c.useSession "sid" fun s => (s.get? "user", s) with
  | .ok (user, _) => user
  | .error _ => none

/-- Signs in and panics, and then looks who has signed in. -/
def forgetful : App (List (Option Json)) where
  notFound := some fun c => do
    modify (· ++ [userOf (signIn c)])
    throw (.text "boom")
  panicHandler := some fun _ c => do
    modify (· ++ [userOf c])
    return c

end App

namespace Server

/-- Who is undecided about the theme is sent a cookie for the user and none for the theme. -/
theorem undecided_handle :
    ∃ store start c d cookie,
      (App.undecided.build App.keyed).run () = (.ok (App.serverOf App.undecided), ()) ∧
      (App.serverOf App.undecided).start? ⟨1000, "a", {}⟩ App.visitor =
        some ((App.serverOf App.undecided).notFound, start) ∧
      (App.serverOf App.undecided).drafted? ⟨1000, "a", {}⟩ App.visitor () = some c ∧
      c.useSession "sid" (fun s => (s.get? "user", s)) = .ok (some (.string "ana"), d) ∧
      (((App.serverOf App.undecided).handle ⟨1000, "a", {}⟩ App.visitor).run ()).1.map
        Response.setCookies = .ok [cookie] ∧
      CookieStore.Sends store 1000 App.signedIn cookie := by
  have hb : (App.undecided.build App.keyed).run () = (.ok (App.serverOf App.undecided), ()) := rfl
  obtain ⟨start, c, hstart, hruns, hdrafted, horigin, hquiet⟩ : ∃ start c,
      (App.serverOf App.undecided).start? ⟨1000, "a", {}⟩ App.visitor =
        some ((App.serverOf App.undecided).notFound, start) ∧
      Context.Runs start App.trying c ∧
      (App.serverOf App.undecided).drafted? ⟨1000, "a", {}⟩ App.visitor () = some c ∧
      (App.serverOf App.undecided).notFound.origin start () = start ∧
      c.headers.getAll "set-cookie" = [] :=
    ⟨_, _, rfl,
      .use (f := fun s => ((), s.delete "dark"))
        (.use (f := fun s => ((), s.set "user" (.string "ana")))
          (.use (f := fun s => ((), s.set "dark" (.bool true))) .begin (fun _ => rfl) rfl)
          (fun _ => rfl) rfl)
        (fun _ => rfl) rfl,
      rfl, rfl, rfl⟩
  obtain ⟨store, hs, hsees, hsends, _⟩ := handle_of_runs hb (by decide) hstart
  obtain ⟨d, hd⟩ := hsees start _ c (.inl rfl) hruns _ "sid" fun s => (s.get? "user", s)
  have hkeys : keysOf App.trying = ["theme", "sid"] := by decide
  have hsid : store.live App.visitor.cookies 1000 App.trying "sid" = App.signedIn := by
    cases hs
    rfl
  -- the theme is as it was loaded, and the user can be sent
  have hsent : ∀ name ∈ keysOf App.trying,
      store.fails 1000 (store.live App.visitor.cookies 1000 App.trying name) = false := by
    intro name hn
    rw [hkeys] at hn
    rcases List.mem_pair.1 hn with rfl | rfl
    · cases hs
      rfl
    · obtain ⟨text, saved⟩ := CookieStore.exists_save_signedIn store
      rw [hsid, CookieStore.fails, saved]
  have hchanged : store.changed App.visitor.cookies 1000 App.trying = ["sid"] := by
    cases hs
    decide +kernel
  obtain ⟨cookies, hcookies, hall⟩ := hsends () c App.trying hdrafted (horigin ▸ hruns) hsent
  rw [hchanged] at hall
  obtain ⟨cookie, rest, hsend, hrest, rfl⟩ := List.forall₂_cons_left_iff.1 hall
  cases hrest
  rw [hsid] at hd hsend
  rw [hquiet] at hcookies
  exact ⟨store, start, c, d, cookie, hb, hstart, hdrafted, hd, hcookies, hsend⟩

/-- After a panic the sign-in is forgotten: the panic handler does not see it, and no cookie is
sent for it. -/
theorem forgetful_handle :
    ∃ server response, (App.forgetful.build App.keyed).run [] = (.ok server, []) ∧
      (server.handle ⟨1000, "a", {}⟩ App.visitor).run [] =
        (.ok response, [some (.string "ana"), none]) ∧
      response.setCookies = [] :=
  ⟨_, _, rfl, rfl, rfl⟩

end Server

end Formwork
