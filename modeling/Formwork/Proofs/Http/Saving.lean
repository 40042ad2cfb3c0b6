import Formwork.Proofs.Http.Recovery

/-! # Which sessions are sent

Sending the sessions of a response ends at the first that cannot be sent: the cookies of the
sessions in front of it are in the headers, those of the sessions behind it are lost
(`CookieStore.saveAll_fst`). So all sessions that could be sent are sent exactly if none of
them stands behind one that cannot (`CookieStore.saveAll_sends_all_iff`). Headers that are
there already stay in any case.
-/

namespace Formwork

namespace CookieStore

variable {store : CookieStore} {now : Int} {s : Session} {sessions : List Session}

/-- Sending the session fails. -/
def fails (store : CookieStore) (now : Int) (s : Session) : Bool :=
  match store.save s now with
  | .ok _ => false
  | .error _ => true

/-- The cookie of a session that is modified and can be sent. -/
def cookie? (store : CookieStore) (now : Int) (s : Session) : Option String :=
  match store.save s now with
  | .ok cookie => cookie
  | .error _ => none

/-- The cookies of sessions as octets, in order. -/
def cookies (store : CookieStore) (now : Int) (sessions : List Session) : List Bytes :=
  (sessions.filterMap (store.cookie? now)).map Utf8.encode

/-- The header that sets a cookie. -/
def cookieHeader (cookie : Bytes) : String × Bytes := ("set-cookie", cookie)

/-- No session that can be sent stands behind one that cannot. -/
def LosesNone (store : CookieStore) (now : Int) (sessions : List Session) : Prop :=
  sessions.Pairwise fun s t => store.fails now s = true → store.cookie? now t = none

theorem cookie?_eq_none_of_fails (h : store.fails now s = true) : store.cookie? now s = none := by
  unfold fails at h
  unfold cookie?
  cases hs : store.save s now with
  | ok cookie =>
      rw [hs] at h
      cases h
  | error fault => rfl

theorem cookies_cons (store : CookieStore) (now : Int) (s : Session) (sessions : List Session) :
    store.cookies now (s :: sessions) =
      (store.cookie? now s).toList.map Utf8.encode ++ store.cookies now sessions := by
  unfold cookies
  cases hc : store.cookie? now s with
  | none => rw [List.filterMap_cons_none hc, Option.toList_none, List.map_nil, List.nil_append]
  | some text => rw [List.filterMap_cons_some hc]; rfl

theorem cookies_eq_nil_iff :
    store.cookies now sessions = [] ↔ ∀ s ∈ sessions, store.cookie? now s = none := by
  rw [cookies, List.map_eq_nil_iff, List.filterMap_eq_nil_iff]

/-- A session that cannot be sent ends the loop, any other adds its cookie, if it has one. -/
theorem saveAll_cons (store : CookieStore) (now : Int) (s : Session) (sessions : List Session)
    (headers : Headers) :
    (store.saveAll now (s :: sessions) headers).1 =
      if store.fails now s then headers
      else (store.saveAll now sessions (headers ++
        ((store.cookie? now s).toList.map Utf8.encode).map cookieHeader)).1 := by
  unfold fails cookie?
  cases hs : store.save s now with
  | error fault => simp only [saveAll, hs, if_true]
  | ok cookie =>
      cases cookie with
      | none => simp [saveAll, hs]
      | some text => simp [saveAll, hs, Headers.append, cookieHeader]

/-- The cookies that are added are those of the sessions in front of the first that cannot be
sent. -/
theorem saveAll_fst (store : CookieStore) (now : Int) (sessions : List Session)
    (headers : Headers) :
    (store.saveAll now sessions headers).1 =
      headers ++
        (store.cookies now (sessions.takeWhile fun s => !store.fails now s)).map cookieHeader := by
  induction sessions generalizing headers with
  | nil => exact (List.append_nil headers).symm
  | cons s sessions ih =>
      rw [saveAll_cons]
      cases hf : store.fails now s with
      | true => simp [hf, cookies]
      | false =>
          rw [List.takeWhile_cons_of_pos (by simp [hf]), cookies_cons, List.map_append,
            ← List.append_assoc]
          exact ih _

/-- Those are all cookies exactly if none is lost. -/
theorem cookies_takeWhile_iff :
    store.cookies now (sessions.takeWhile fun s => !store.fails now s) =
        store.cookies now sessions ↔ store.LosesNone now sessions := by
  induction sessions with
  | nil => exact iff_of_true rfl .nil
  | cons s sessions ih =>
      rw [LosesNone, List.pairwise_cons]
      cases hf : store.fails now s with
      | false =>
          rw [List.takeWhile_cons_of_pos (by simp [hf]), cookies_cons, cookies_cons,
            List.append_cancel_left_eq, ih]
          simp [LosesNone]
      | true =>
          have hnil : store.cookies now [] = [] := rfl
          rw [List.takeWhile_cons_of_neg (by simp [hf]), hnil, eq_comm, cookies_eq_nil_iff,
            List.forall_mem_cons]
          -- once all that follow have no cookie, nothing is lost among them either
          constructor
          · rintro ⟨_, hall⟩
            refine ⟨fun t ht _ => hall t ht, ?_⟩
            exact List.pairwise_of_forall_mem_list fun _ _ t ht _ => hall t ht
          · rintro ⟨hall, _⟩
            exact ⟨cookie?_eq_none_of_fails hf, fun t ht => hall t ht rfl⟩

end CookieStore

/-- The cookies of a response that can be made up. -/
theorem Context.respond_cookies {c : Context} {store : CookieStore} (hs : c.site.store = some store)
    (ho : ¬ c.IsOverdue) :
    c.respond.map Response.setCookies = .ok (c.headers.getAll "set-cookie" ++
      store.cookies c.now (c.sessions.takeWhile fun s => !store.fails c.now s)) := by
  have hne := mt (isOverdue_iff hs).2 ho
  rw [respond_setCookies_of_ne hs hne, CookieStore.saveAll_fst]
  exact congrArg Except.ok (Headers.getAll_append_same _ _ _)

namespace CookieStore

/-- Every modified session that can be sent on its own is sent, in order and behind the headers
that are there, exactly if none of them stands behind one that cannot be sent. The same holds
of the response of a context, unless this ends in a panic. -/
theorem saveAll_sends_all_iff (store : CookieStore) :
    (∀ now sessions headers,
      (store.saveAll now sessions headers).1 = headers ++
        (store.cookies now (sessions.takeWhile fun s => !store.fails now s)).map cookieHeader ∧
      ((store.saveAll now sessions headers).1 =
          headers ++ (store.cookies now sessions).map cookieHeader ↔
        store.LosesNone now sessions)) ∧
    ∀ c : Context, c.site.store = some store →
      ((∃ response, c.respond = .ok response ∧
          response.setCookies = c.headers.getAll "set-cookie" ++ store.cookies c.now c.sessions) ↔
        ¬ c.IsOverdue ∧ store.LosesNone c.now c.sessions) := by
  constructor
  · intro now sessions headers
    have hinjective : Function.Injective (List.map cookieHeader) :=
      List.map_injective_iff.2 fun _ _ h => congrArg Prod.snd h
    refine ⟨saveAll_fst store now sessions headers, ?_⟩
    rw [saveAll_fst, List.append_cancel_left_eq, hinjective.eq_iff, cookies_takeWhile_iff]
  · intro c hs
    rw [← cookies_takeWhile_iff]
    constructor
    · rintro ⟨response, hr, hcookies⟩
      have ho := Context.respond_eq_ok_iff.1 ⟨response, hr⟩
      have hsent := Context.respond_cookies hs ho
      rw [hr, Except.map, Except.ok.injEq, hcookies, List.append_cancel_left_eq] at hsent
      exact ⟨ho, hsent.symm⟩
    · rintro ⟨ho, hall⟩
      obtain ⟨response, hr, hcookies⟩ := map_eq_ok.1 (Context.respond_cookies hs ho)
      exact ⟨response, hr, by rw [hcookies, hall]⟩

/-- A session that is deleted at a path that cannot be written into a header. -/
def unsendable : Session := ((Session.fresh "theme" {} none).setPath "/\n").expire

theorem save_unsendable (store : CookieStore) :
    store.save unsendable 1000 = .error .invalidHeader := by
  have hdeleted : unsendable.options.maxAge < 0 := by decide
  have htext : unsendable.options.render? unsendable.name "" 1000 = some
      "theme=; Path=/\n; Expires=Thu, 01 Jan 1970 00:00:01 GMT; Max-Age=0; HttpOnly" := by
    decide +kernel
  have hvalue : Header.isValue (Utf8.encode
      "theme=; Path=/\n; Expires=Thu, 01 Jan 1970 00:00:01 GMT; Max-Age=0; HttpOnly") = false := by
    decide +kernel
  simp only [save, if_pos (show unsendable.isModified = true by decide), if_pos hdeleted, htext,
    hvalue, Bool.false_eq_true, if_false]

theorem exists_save_signedIn (store : CookieStore) :
    ∃ text, store.save App.signedIn 1000 = .ok (some text) := by
  obtain ⟨text, saved, _⟩ := Client.save_of_isSendable (by decide) App.isSendable_signedIn store
  exact ⟨text, saved⟩

/-- Behind the session of a user, one that cannot be sent does no harm. -/
theorem saveAll_keeps_signedIn (store : CookieStore) :
    ∃ text, store.save App.signedIn 1000 = .ok (some text) ∧
      (store.saveAll 1000 [App.signedIn, unsendable] [("first", [0x31])]).1 =
        [("first", [0x31]), ("set-cookie", Utf8.encode text)] := by
  obtain ⟨text, saved⟩ := exists_save_signedIn store
  have hcookie : store.cookie? 1000 App.signedIn = some text := by rw [cookie?, saved]
  have hnone : store.cookie? 1000 unsendable = none := by rw [cookie?, save_unsendable]
  have hloses : store.LosesNone 1000 [App.signedIn, unsendable] :=
    List.pairwise_pair.2 fun _ => hnone
  refine ⟨text, saved, ?_⟩
  rw [(((saveAll_sends_all_iff store).1 _ _ _).2).2 hloses]
  simp [cookies, cookieHeader, hcookie, hnone]

/-- The context in which the session that cannot be sent was used first. -/
def afterUnsendable : Context where
  site := App.keyedSite
  now := 1000
  request := App.visitor
  params := ∅
  route := "/"
  sessions := [unsendable, App.signedIn]

/-- In front of it, it takes the session of the user away, also from the response. -/
theorem saveAll_loses_signedIn :
    ∃ store text response, App.keyedSite.store = some store ∧
      store.save unsendable 1000 = .error .invalidHeader ∧
      store.save App.signedIn 1000 = .ok (some text) ∧
      store.saveAll 1000 [unsendable, App.signedIn] [] = ([], some .invalidHeader) ∧
      afterUnsendable.respond = .ok response ∧ response.setCookies = [] := by
  obtain ⟨store, hs⟩ : ∃ store, App.keyedSite.store = some store := ⟨_, rfl⟩
  obtain ⟨text, saved⟩ := exists_save_signedIn store
  have hlost : store.saveAll afterUnsendable.now afterUnsendable.sessions
      afterUnsendable.headers = ([], some .invalidHeader) := by
    change store.saveAll 1000 [unsendable, App.signedIn] [] = _
    rw [saveAll, save_unsendable]
  have hsent := Context.respond_setCookies_of_ne hs (by rw [hlost]; decide)
  rw [hlost] at hsent
  obtain ⟨response, hr, hcookies⟩ := map_eq_ok.1 hsent
  exact ⟨store, text, response, hs, save_unsendable store, saved, hlost, hr, hcookies⟩

end CookieStore

end Formwork
