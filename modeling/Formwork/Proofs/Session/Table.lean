import Formwork.Http.Client
import Formwork.Proofs.Session.Cookie
import Formwork.Proofs.Session.Signature

/-! # Cookies as a table of sessions

The cookies that a client holds mirror a table which has, for the name of each session,
the values and the lifetime it was left with and the time at which the values were signed.
Sending the sessions of a request and keeping what was sent keeps the mirror
(`Client.Mirrors.keep_saved`), and loading a session from the cookies gives what the table
yields (`Client.Mirrors.load`).
-/

namespace Formwork

open Header (IsPrintableText)

/-! ## The table -/

/-- The values of a session, the time at which they were signed, and the seconds for which the
session was to be kept. -/
structure SignedValues where
  values : Json.Members
  time : Int
  maxAge : Int

/-- What is kept of sessions, by their names. -/
abbrev SessionTable := String → Option SignedValues

namespace SessionTable

/-- Nothing is kept. -/
def empty : SessionTable := fun _ => none

/-- The table after a session was sent: a modified one takes the place of what was kept
under its name, or leaves nothing there if its cookie is to be deleted. -/
def put (table : SessionTable) (now : Int) (s : Session) : SessionTable := fun name =>
  if s.isModified ∧ name = s.name then
    if s.options.maxAge < 0 then none else some ⟨s.values, now, s.options.maxAge⟩
  else table name

/-- The table after the sessions of a request were sent. -/
def putAll (table : SessionTable) (now : Int) (sessions : List Session) : SessionTable :=
  sessions.foldl (fun table s => table.put now s) table

/-- What the table yields under a name: a new session where it holds nothing, and else the
values that it holds, unless they were signed longer ago than cookies live by default. Of a
session that was to be kept longer than that, it is left open whether it is still there between
the two times; once it is older than both, it is discarded. -/
inductive Yields (table : SessionTable) (name : String) (now : Int) : Session → Prop
  | unknown (absent : table name = none) : Yields table name now (.fresh name {} none)
  | known {entry : SignedValues} (holds : table name = some entry)
      (recent : now - entry.time ≤ max ({} : CookieOptions).maxAge entry.maxAge) :
      Yields table name now (.loaded name entry.values {})
  | discarded {entry : SignedValues} (holds : table name = some entry)
      (old : ({} : CookieOptions).maxAge < now - entry.time) :
      Yields table name now (.fresh name {} (some .expired))

variable {table : SessionTable} {name : String} {now : Int} {s : Session} {entry : SignedValues}

theorem Yields.eq_loaded (h : table.Yields name now s) (holds : table name = some entry)
    (recent : now - entry.time ≤ ({} : CookieOptions).maxAge) :
    s = .loaded name entry.values {} := by
  cases h with
  | unknown absent => cases holds.symm.trans absent
  | known holds' => cases holds.symm.trans holds'; rfl
  | discarded holds' old =>
      cases holds.symm.trans holds'
      omega

theorem Yields.eq_expired (h : table.Yields name now s) (holds : table name = some entry)
    (old : max ({} : CookieOptions).maxAge entry.maxAge < now - entry.time) :
    s = .fresh name {} (some .expired) := by
  cases h with
  | unknown absent => cases holds.symm.trans absent
  | known holds' recent =>
      cases holds.symm.trans holds'
      omega
  | discarded => rfl

end SessionTable

/-! ## Sessions that can be sent -/

/-- A name of ASCII letters, digits, hyphens and underscores. -/
def Session.IsName (name : String) : Prop :=
  ∀ c ∈ name.toList, CharClass.isAsciiAlnum c = true ∨ c = '-' ∨ c = '_'

instance (name : String) : Decidable (Session.IsName name) :=
  List.decidableBAll (fun c => CharClass.isAsciiAlnum c = true ∨ c = '-' ∨ c = '_') name.toList

/-- The session can be sent and read again: its name is plain, its values are values of
documents without fractions that nest at most 100 levels, its path and domain are
printable, and its cookie ends within the calendar. -/
structure Session.IsSendable (s : Session) (now : Int) : Prop where
  name : Session.IsName s.name
  values : ∀ member ∈ s.values, Json.Fits 100 member.2
  canonical : (Json.object s.values).canonical = .object s.values
  path : IsPrintableText s.options.path
  domain : ∀ domain ∈ s.options.domain, IsPrintableText domain
  lifetime : (s.options.lifetime? now).isSome = true

theorem isPlainChar_of_isLetter {c : Char} (h : Base64Url.IsLetter c) :
    Cookie.IsPlainChar c := by
  obtain ⟨hp, hb, hq, _, hs, he, _⟩ := h.plain
  exact ⟨hp, hb, hq, hs, he⟩

theorem Session.IsName.isPlain {name : String} (h : IsName name) : Cookie.IsPlain name := by
  intro c hc
  rcases h c hc with hc | rfl | rfl
  · exact isPlainChar_of_isLetter (Base64Url.isLetter_of_isAsciiAlnum hc)
  · exact isPlainChar_of_isLetter (by decide)
  · exact isPlainChar_of_isLetter (by decide)

namespace CookieStore

theorem isPlain_encode (store : CookieStore) (name : String) (values : Json.Members)
    (time : Int) : Cookie.IsPlain (store.encode name values time) := by
  intro c hc
  rw [encode_eq, String.toList_append, String.toList_append] at hc
  rcases List.mem_append.1 hc with hc | hc
  · rcases List.mem_append.1 hc with hc | hc
    · exact isPlainChar_of_isLetter (isLetter_of_mem_payloadText c hc)
    · cases List.mem_singleton.1 hc
      exact ⟨by decide, by decide, by decide, by decide, by decide⟩
  · exact isPlainChar_of_isLetter (Base64Url.isLetter_of_mem_encode c hc)

theorem isEmpty_encode (store : CookieStore) (name : String) (values : Json.Members)
    (time : Int) : (store.encode name values time).isEmpty = false := by
  rw [encode_eq, String.isEmpty_eq_false_iff]
  intro h
  have hl := congrArg String.toList h
  simp at hl

end CookieStore

theorem Session.IsSendable.readsBack {s : Session} {now : Int} (h : s.IsSendable now)
    (hn : Word64.IsSigned now) : CookieStore.ReadsBack now s.values :=
  CookieStore.readsBack_of_fits hn (.object h.values) (by decide) h.canonical

/-! ## Keeping what was sent -/

namespace Client

variable {client : Client} {table : SessionTable} {store : CookieStore}

/-- The client holds a cookie for what the table holds, and no others. -/
structure Mirrors (store : CookieStore) (client : Client) (table : SessionTable) : Prop where
  cookies : ∀ name, client.cookies.get? name =
    (table name).map fun entry => store.encode name entry.values entry.time
  names : ∀ name entry, table name = some entry → Session.IsName name
  readsBack : ∀ name entry, table name = some entry →
    CookieStore.ReadsBack entry.time entry.values

/-- What the header of a rendered cookie says is kept. -/
theorem keep_render {name value text : String} (hn : Cookie.IsPlain name)
    (hv : Cookie.IsPlain value) (ht : IsPrintableText text)
    {more : List Char} (hm : ∀ c ∈ more.head?, c = ';')
    (htext : text.toList = (Cookie.pairText (name, value)).toList ++ more) (client : Client) :
    client.keep (Utf8.encode text) =
      if value.isEmpty then ⟨client.cookies.erase name⟩
      else ⟨client.cookies.insert name value⟩ := by
  have hfirst : text.toList.takeWhile (· != ';') = (Cookie.pairText (name, value)).toList := by
    have hp : ∀ c ∈ (Cookie.pairText (name, value)).toList, (c != ';') = true := by
      intro c hc
      have := Cookie.not_semicolon_of_mem_pairText hn hv c hc
      simpa using this
    have hends : ∀ c ∈ more.head?, (c != ';') = false := by
      intro c hc
      rw [hm c hc]
      rfl
    rw [htext, Cut.takeWhile_append_of_ends hp hends]
  have hsplit : Text.splitOnce? '=' (Cookie.pairText (name, value)) = some (name, value) :=
    Text.splitOnce?_eq_some_iff.2 ⟨Cookie.toList_pairText _, fun hm => (hn '=' hm).2.2.2.2 rfl⟩
  have hcookie : cookieOf? (Utf8.encode text) = some (name, value) := by
    rw [cookieOf?, Header.visibleText?_encode ht, Option.bind_some, hfirst, String.ofList_toList,
      hsplit]
  rw [keep, hcookie]

/-- A modified session that can be sent is sent. -/
theorem save_of_isSendable {s : Session} {now : Int} (hm : s.isModified = true)
    (hs : s.IsSendable now) (store : CookieStore) :
    ∃ text, store.save s now = .ok (some text) ∧ ∀ client : Client,
      client.keep (Utf8.encode text) =
        if s.options.maxAge < 0 then ⟨client.cookies.erase s.name⟩
        else ⟨client.cookies.insert s.name (store.encode s.name s.values now)⟩ := by
  have hn := hs.name.isPlain
  have hv : Cookie.IsPlain
      (if s.options.maxAge < 0 then "" else store.encode s.name s.values now) := by
    split
    · intro c hc
      cases hc
    · exact store.isPlain_encode _ _ _
  obtain ⟨text, more, hr, ht, htext, hmore⟩ :=
    CookieOptions.render?_eq_some hn hv hs.path hs.domain hs.lifetime
  refine ⟨text, ?_, fun client => ?_⟩
  · simp only [CookieStore.save, hm, if_true, hr, Header.isValue_encode ht]
  · by_cases hneg : s.options.maxAge < 0
    · simp only [hneg, if_true] at hv htext ⊢
      exact keep_render hn hv ht hmore htext client
    · simp only [hneg, if_false] at hv htext ⊢
      rw [keep_render hn hv ht hmore htext client, store.isEmpty_encode]
      rfl

/-- Keeping the cookie of a session keeps the mirror. -/
theorem Mirrors.put {s : Session} {now : Int} {kept : Client} (h : Mirrors store client table)
    (hm : s.isModified = true) (hs : s.IsSendable now) (hnow : Word64.IsSigned now)
    (hk : kept = if s.options.maxAge < 0 then ⟨client.cookies.erase s.name⟩
      else ⟨client.cookies.insert s.name (store.encode s.name s.values now)⟩) :
    Mirrors store kept (table.put now s) := by
  have hput : ∀ name, table.put now s name = if name = s.name then
      if s.options.maxAge < 0 then none else some ⟨s.values, now, s.options.maxAge⟩
      else table name := by
    intro name
    simp only [SessionTable.put, hm, true_and]
  refine ⟨fun name => ?_, fun name entry he => ?_, fun name entry he => ?_⟩
  · rw [hput, hk]
    by_cases hneg : s.options.maxAge < 0
    · simp only [hneg, if_true, Dict.get?_erase, h.cookies name]
      split <;> rfl
    · simp only [hneg, if_false, Dict.get?_insert, h.cookies name]
      split
      · rename_i hname
        rw [hname]
        rfl
      · rfl
  · rw [hput] at he
    split at he
    · rename_i hname
      rw [hname]
      exact hs.name
    · exact h.names name entry he
  · rw [hput] at he
    split at he
    · split at he
      · cases he
      · cases he
        exact hs.readsBack hnow
    · exact h.readsBack name entry he

/-- Sessions that can be sent are sent, and the client keeps what was modified. -/
theorem Mirrors.keep_saved {sessions : List Session} {now : Int}
    (hs : ∀ s ∈ sessions, s.isModified = true → s.IsSendable now) (hnow : Word64.IsSigned now)
    (headers : Headers) :
    ∃ cookies : List Bytes,
      store.saveAll now sessions headers =
        (headers ++ cookies.map fun cookie => ("set-cookie", cookie), none) ∧
      ∀ client table, Mirrors store client table →
        Mirrors store (cookies.foldl keep client) (table.putAll now sessions) := by
  induction sessions generalizing headers with
  | nil => exact ⟨[], by simp [CookieStore.saveAll], fun client table h => h⟩
  | cons s sessions ih =>
      have hrest := ih fun other ho => hs other (List.mem_cons_of_mem _ ho)
      by_cases hm : s.isModified = true
      · have hsend := hs s List.mem_cons_self hm
        obtain ⟨text, hsave, hkeep⟩ := save_of_isSendable hm hsend store
        obtain ⟨cookies, hall, hmirror⟩ := hrest (headers.append "set-cookie" (Utf8.encode text))
        refine ⟨Utf8.encode text :: cookies, ?_, fun client table h => ?_⟩
        · simp only [CookieStore.saveAll, hsave, hall]
          simp [Headers.append]
        · exact hmirror _ _ (h.put hm hsend hnow (hkeep client))
      · obtain ⟨cookies, hall, hmirror⟩ := hrest headers
        refine ⟨cookies, ?_, fun client table h => ?_⟩
        · have hsave : store.save s now = .ok none := by
            simp only [CookieStore.save, hm, Bool.false_eq_true, if_false]
          simp only [CookieStore.saveAll, hsave, hall]
        · have hput : table.put now s = table := by
            funext name
            simp only [SessionTable.put, hm, false_and, Bool.false_eq_true, if_false]
          have := hmirror client table h
          rw [SessionTable.putAll, List.foldl_cons, hput]
          exact this

/-! ## Loading what was kept -/

theorem Mirrors.empty (store : CookieStore) : Mirrors store {} .empty :=
  ⟨fun _ => rfl, fun _ _ h => (nomatch h), fun _ _ h => (nomatch h)⟩

/-- The order in which a client lists its cookies does not matter. -/
theorem Mirrors.same {shuffled : Client} (h : Mirrors store client table)
    (hs : shuffled.cookies.Same client.cookies) : Mirrors store shuffled table :=
  ⟨fun name => (hs name).trans (h.cookies name), h.names, h.readsBack⟩

theorem Mirrors.isPlain (h : Mirrors store client table) :
    ∀ entry ∈ client.cookies.entries, Cookie.IsPlain entry.1 ∧ Cookie.IsPlain entry.2 := by
  intro entry he
  have hg : client.cookies.get? entry.1 = some entry.2 := Dict.get?_eq_some_iff.2 he
  rw [h.cookies] at hg
  obtain ⟨signed, ht, hv⟩ := Option.map_eq_some_iff.1 hg
  refine ⟨(h.names _ _ ht).isPlain, ?_⟩
  rw [← hv]
  exact store.isPlain_encode _ _ _

/-- The server finds the cookies of the client in the request. -/
theorem Mirrors.find? {request : Request} (h : Mirrors store client table)
    (hr : request.headers.contains "cookie" = false) (name : String) :
    Cookie.find? ((client.withCookies request).cookies.filterMap Header.visibleText?) name =
      client.cookies.get? name := by
  have hnone : request.cookies = [] := Headers.getAll_eq_nil hr
  by_cases he : client.cookies.isEmpty = true
  · have hw : client.withCookies request = request := by
      rw [withCookies, he, Bool.or_true, if_pos rfl]
    rw [hw, hnone, Dict.isEmpty_iff.1 he name]
    rfl
  · have hw : (client.withCookies request).cookies = [client.cookieHeader] := by
      rw [withCookies, hr, Bool.false_or, if_neg he]
      change Headers.getAll (request.headers.append "cookie" client.cookieHeader) "cookie" = _
      rw [Headers.getAll_append, if_pos rfl]
      exact congrArg (· ++ [client.cookieHeader]) hnone
    have hheader : client.cookieHeader = Utf8.encode (Cookie.headerText client.cookies.entries) :=
      rfl
    have hv := Header.visibleText?_encode (Cookie.isPrintableText_headerText h.isPlain)
    rw [hw, hheader, List.filterMap_cons_some hv, List.filterMap_nil,
      Cookie.find?_headerText h.isPlain]
    rfl

/-- A session is loaded as the table yields it. -/
theorem Mirrors.load {request : Request} {now : Int} (h : Mirrors store client table)
    (hd : store.defaults = {}) (hr : request.headers.contains "cookie" = false) (name : String) :
    table.Yields name now (store.load name (client.withCookies request).cookies now) := by
  have hexpired : ∀ time, store.isExpired time now = true ↔
      ({} : CookieOptions).maxAge < now - time := by
    intro time
    have hbounded : store.defaults.maxAge < Word64.maxSigned := by
      rw [hd]
      decide
    have hpos : 0 < ({} : CookieOptions).maxAge := by decide
    rw [CookieStore.isExpired_iff_of_lt hbounded, hd]
    exact and_iff_right hpos
  rw [CookieStore.load, h.find? hr, h.cookies, hd]
  cases ht : table name with
  | none => exact .unknown ht
  | some entry =>
      simp only [Option.map_some, CookieStore.decode_encode (h.readsBack name entry ht), hexpired]
      by_cases hold : ({} : CookieOptions).maxAge < now - entry.time
      · rw [if_pos hold]
        exact .discarded ht hold
      · rw [if_neg hold]
        exact .known ht (by omega)

end Client

end Formwork
