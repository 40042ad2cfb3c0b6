import Formwork.Proofs.Calendar.Range
import Formwork.Proofs.Http.Browsing

/-! # Responses in spite of panics

A panic in a chain is recovered: a panic handler, where there is one, answers on a context
of which nothing is drafted, and else a plain text does (`Target.dispatch_of_panic`). So only
the message gets from the chain into the response. What is not recovered is a panic while the
response is made up. There is one way to it: a modified session whose cookie would end where
the calendar has no date (`Context.respond_eq_ok_iff`, and for a whole server
`Server.handle_responds_iff`).
-/

namespace Formwork

open Calendar (firstSecond lastSecond)

/-! ## Cookies that outlive the calendar -/

theorem CookieOptions.lifetime?_eq_none_iff {o : CookieOptions} {now : Int} :
    o.lifetime? now = none ↔
      0 < o.maxAge ∧ ¬ (firstSecond ≤ now + o.maxAge ∧ now + o.maxAge ≤ lastSecond) := by
  unfold lifetime?
  rw [← DateTime.ofUnix?_isSome_iff]
  split
  · rename_i h
    simp [h]
  · rename_i h
    split <;> simp [h]

/-- The session is modified, and its cookie would end where the calendar has no date. -/
def Session.Outlives (s : Session) (now : Int) : Prop :=
  s.isModified = true ∧ 0 < s.options.maxAge ∧
    ¬ (firstSecond ≤ now + s.options.maxAge ∧ now + s.options.maxAge ≤ lastSecond)

namespace CookieStore

variable {store : CookieStore} {s : Session} {now : Int} {fault : SaveFault}

theorem save_eq_beyondCalendar_iff :
    store.save s now = .error .beyondCalendar ↔ s.Outlives now := by
  unfold save Session.Outlives
  rw [← CookieOptions.lifetime?_eq_none_iff]
  by_cases hm : s.isModified = true
  · simp only [hm, if_true, true_and, CookieOptions.render?, CookieOptions.pieces?]
    cases s.options.lifetime? now with
    | none => simp
    | some pieces =>
        have hsent : ∀ text : String, (if Header.isValue (Utf8.encode text) then .ok (some text)
            else .error .invalidHeader) ≠
              (.error .beyondCalendar : Except SaveFault (Option String)) := by
          intro text
          split <;> simp
        exact iff_of_false (hsent _) (by simp)
  · simp [hm]

/-- Sending sessions fails at the first that cannot be sent. -/
theorem saveAll_eq_fault_iff {sessions : List Session} {headers : Headers} :
    (store.saveAll now sessions headers).2 = some fault ↔
      ∃ before s after, sessions = before ++ s :: after ∧
        (∀ b ∈ before, ∃ cookie, store.save b now = .ok cookie) ∧
          store.save s now = .error fault := by
  induction sessions generalizing headers with
  | nil => simp [saveAll]
  | cons first sessions ih =>
      cases hs : store.save first now with
      | error other =>
          simp only [saveAll, hs, Option.some.injEq]
          constructor
          · rintro rfl
            refine ⟨[], first, sessions, rfl, ?_, hs⟩
            intro b hb
            cases hb
          · rintro ⟨before, s, after, he, hb, hf⟩
            cases before with
            | nil =>
                cases he
                rw [hs] at hf
                cases hf
                rfl
            | cons b before =>
                cases he
                obtain ⟨cookie, hc⟩ := hb _ List.mem_cons_self
                rw [hs] at hc
                cases hc
      | ok cookie =>
          have hrest : ∃ headers', store.saveAll now (first :: sessions) headers =
              store.saveAll now sessions headers' := by
            cases cookie with
            | none => exact ⟨headers, by simp only [saveAll, hs]⟩
            | some text => exact ⟨_, by simp only [saveAll, hs]; rfl⟩
          obtain ⟨headers', hrest⟩ := hrest
          rw [hrest, ih]
          constructor
          · rintro ⟨before, s, after, rfl, hb, hf⟩
            refine ⟨first :: before, s, after, rfl, ?_, hf⟩
            intro b hmem
            rcases List.mem_cons.1 hmem with rfl | hmem
            · exact ⟨cookie, hs⟩
            · exact hb b hmem
          · rintro ⟨before, s, after, he, hb, hf⟩
            cases before with
            | nil =>
                cases he
                rw [hs] at hf
                cases hf
            | cons b before =>
                cases he
                exact ⟨before, s, after, rfl, fun b' hb' => hb b' (List.mem_cons_of_mem _ hb'), hf⟩

end CookieStore

namespace Context

variable {c : Context}

/-- Of the sessions of the context, the first that cannot be sent outlives the calendar. -/
def IsOverdue (c : Context) : Prop :=
  ∃ store ∈ c.site.store, ∃ before s after, c.sessions = before ++ s :: after ∧
    (∀ b ∈ before, ∃ cookie, store.save b c.now = .ok cookie) ∧ s.Outlives c.now

theorem isOverdue_iff {store : CookieStore} (hs : c.site.store = some store) :
    c.IsOverdue ↔ (store.saveAll c.now c.sessions c.headers).2 = some .beyondCalendar := by
  rw [CookieStore.saveAll_eq_fault_iff]
  simp only [IsOverdue, hs, Option.mem_some_iff, exists_eq_left',
    CookieStore.save_eq_beyondCalendar_iff]

/-- A response can be made up unless the context is overdue. -/
theorem respond_eq_ok_iff : (∃ response, c.respond = .ok response) ↔ ¬ c.IsOverdue := by
  unfold respond
  cases hstore : c.site.store with
  | none =>
      refine iff_of_true ⟨_, rfl⟩ ?_
      rintro ⟨store, hs, _⟩
      rw [hstore] at hs
      cases hs
  | some store =>
      rw [isOverdue_iff hstore]
      by_cases hf : (store.saveAll c.now c.sessions c.headers).2 = some .beyondCalendar
      · simp only [hf, if_true, not_true_eq_false, iff_false]
        rintro ⟨response, h⟩
        cases h
      · simp only [hf, if_false, not_false_eq_true, iff_true]
        exact ⟨_, rfl⟩

end Context

variable {S : Type}

namespace App

/-- Keeps a session for as long as numbers allow. -/
def linger (c : Context) : Context :=
  match c.useSession "sid" fun s => ((), s.setMaxAge (2 ^ 63 - 1)) with
  | .ok (_, c) => c
  | .error _ => c

def lingering : App Unit :=
  { routes := .mk "" "" [] [⟨.get, "/", "", fun c => return linger c, []⟩] [] }

def keyedSite : Site := ⟨keyed, ⟨∅⟩, storeOf keyed⟩

/-- A chain that panics behind its middlewares. -/
def failing (middlewares : List (Middleware Unit)) : Target Unit :=
  ⟨"/", middlewares, fun _ => throw (.text "boom"), 200⟩

end App

/-! ## Responses -/

namespace Target

variable {target one other : Target S} {handler : Option (PanicHandler S)} {site : Site} {now : Int}
  {params : Dict String} {request : Request} {state : S}

/-- A request gets a response, unless its body is small enough for a chain and the context
that drafts the response is overdue. No other panic gets through. -/
theorem dispatch_responds_iff (target : Target S) (handler : Option (PanicHandler S)) (site : Site)
    (now : Int) (params : Dict String) (request : Request) (state : S) :
    (∃ response later,
        (target.dispatch handler site now params request).run state = (.ok response, later)) ↔
      ∀ c, request.body.length ≤ site.settings.limits.bodySize →
        target.drafted? handler (target.start site now params request) state = some c →
          ¬ c.IsOverdue := by
  rw [exists_run_eq_ok_iff, dispatch_result]
  by_cases hb : site.settings.limits.bodySize < request.body.length
  · rw [if_pos hb]
    exact iff_of_true ⟨_, rfl⟩ fun c hle => absurd hle (by omega)
  · rw [if_neg hb]
    have hle : request.body.length ≤ site.settings.limits.bodySize := by omega
    cases target.drafted? handler (target.start site now params request) state with
    | none =>
        refine iff_of_true ⟨_, rfl⟩ ?_
        intro c _ hd
        cases hd
    | some c =>
        show (∃ response, c.respond = .ok response) ↔ _
        rw [Context.respond_eq_ok_iff]
        constructor
        · intro hc d _ hd
          cases hd
          exact hc
        · intro hc
          exact hc c hle rfl

/-- Answering the root of `App.lingering` panics: there is no date at which its cookie
would end. -/
theorem dispatch_lingering_panics :
    ∃ server target params,
      (App.lingering.build App.keyed).run () = (.ok server, ()) ∧
      server.target? (Server.arriving ⟨1000, "a", {}⟩ App.visitor) = some (target, params) ∧
      ((target.dispatch server.panicHandler server.site 1000 params
        (Server.arriving ⟨1000, "a", {}⟩ App.visitor)).run ()).1 =
          .error (.text "the cookie expires beyond the calendar") :=
  ⟨_, ⟨"/", [], fun c => return App.linger c, 200⟩, ∅, rfl, rfl, rfl⟩

/-- The context on which a panic handler starts. -/
def blank (target : Target S) (site : Site) (now : Int) (params : Dict String)
    (request : Request) : Context :=
  { site, now, request, params, route := target.route, status := 500 }

/-- How a panic is answered: with what the handler drafts, and with a plain text and the
status 500 where there is no handler or it panics as well. -/
inductive Answers (message : String) (c : Context) (state : S) :
    Option (PanicHandler S) → Response → Prop
  | unhandled : Answers message c state none (.plain 500 "internal server error")
  | drafted {h : PanicHandler S} {d : Context} {response : Response}
      (drafts : ((h message c).run state).1 = .ok d) (sends : d.respond = .ok response) :
      Answers message c state (some h) response
  | panicked {h : PanicHandler S} {panic : Panic}
      (panics : ((h message c).run state).1 = .error panic) :
      Answers message c state (some h) (.plain 500 "internal server error")

/-- Handlers that answer alike give the same response. -/
theorem Answers.unique {message : String} {c : Context} {left right : S} {r r' : Response}
    (alike : ∀ h ∈ handler, ((h message c).run left).1 = ((h message c).run right).1)
    (hr : Answers message c left handler r) (hr' : Answers message c right handler r') : r = r' := by
  cases hr with
  | unhandled =>
      cases hr'
      rfl
  | drafted drafts sends =>
      rw [alike _ rfl] at drafts
      cases hr' with
      | drafted drafts' sends' =>
          rw [drafts] at drafts'
          cases drafts'
          exact Except.ok.inj (sends.symm.trans sends')
      | panicked panics =>
          rw [drafts] at panics
          cases panics
  | panicked panics =>
      rw [alike _ rfl] at panics
      cases hr' with
      | drafted drafts sends =>
          rw [drafts] at panics
          cases panics
      | panicked panics' => rfl

end Target

/-- The server as a whole answers every request, unless the context that drafts the response
is overdue. -/
theorem Server.handle_responds_iff (server : Server S) (around : Surroundings) (request : Request)
    (state : S) :
    (∃ response later, (server.handle around request).run state = (.ok response, later)) ↔
      ∀ c, server.drafted? around request state = some c → ¬ c.IsOverdue := by
  have hcookies := handle_setCookies server around request state
  rw [exists_run_eq_ok_iff]
  cases hd : server.drafted? around request state with
  | none =>
      rw [hd] at hcookies
      obtain ⟨response, hresponse, _⟩ := map_eq_ok.1 hcookies
      refine iff_of_true ⟨response, hresponse⟩ ?_
      intro c hc
      cases hc
  | some c =>
      rw [hd] at hcookies
      have hresponds : (∃ response, ((server.handle around request).run state).1 = .ok response) ↔
          ∃ response, c.respond = .ok response := by
        dsimp only at hcookies
        constructor
        · rintro ⟨response, h⟩
          rw [h] at hcookies
          obtain ⟨drafted, hdrafted, _⟩ := map_eq_ok.1 hcookies.symm
          exact ⟨drafted, hdrafted⟩
        · rintro ⟨response, h⟩
          rw [h] at hcookies
          obtain ⟨answer, hanswer, _⟩ := map_eq_ok.1 hcookies
          exact ⟨answer, hanswer⟩
      rw [hresponds, Context.respond_eq_ok_iff]
      constructor
      · intro hc d hd
        cases hd
        exact hc
      · intro hc
        exact hc c rfl

end Formwork
