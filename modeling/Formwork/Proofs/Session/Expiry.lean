import Formwork.Proofs.Calendar.Range
import Formwork.Proofs.Session.Table

/-! # When a cookie is too old

A session has a lifetime of its own. The browser is told it, but the signed value does not
hold it: a store that reads the value back compares its age with its own default lifetime
(`CookieStore.decode_saved_iff`). The two are the same thing exactly for sessions that keep
the default.
-/

namespace Formwork

/-- The value that a text sets for a cookie: what stands behind the name and the sign of
equality, up to a semicolon. -/
def Cookie.valueIn (name text : String) : String :=
  String.ofList ((text.toList.drop (name.toList.length + 1)).takeWhile (· != ';'))

open Header (IsPrintableText)

namespace CookieStore

variable {store : CookieStore} {s : Session} {text : String} {time now : Int}

theorem render?_of_save (h : store.save s time = .ok (some text)) (hl : 0 ≤ s.options.maxAge) :
    s.options.render? s.name (store.encode s.name s.values time) time = some text := by
  have hn : ¬ s.options.maxAge < 0 := by omega
  unfold save at h
  split at h
  · dsimp only at h
    split at h
    · cases h
    · rename_i found hr
      split at h <;> cases h
      exact hr
  · cases h

theorem valueIn_of_save (h : store.save s time = .ok (some text)) (hl : 0 ≤ s.options.maxAge) :
    Cookie.valueIn s.name text = store.encode s.name s.values time := by
  have hn : ¬ s.options.maxAge < 0 := by omega
  obtain ⟨more, htext, hmore⟩ := CookieOptions.toList_of_render? (render?_of_save h hl)
  have hdrop : text.toList.drop (s.name.toList.length + 1) =
      (store.encode s.name s.values time).toList ++ more := by
    rw [htext, if_neg hn, Cookie.toList_pairText, List.append_assoc, List.cons_append,
      ← List.drop_drop, List.drop_left, List.drop_one, List.tail_cons]
  have htake : ((store.encode s.name s.values time).toList ++ more).takeWhile (· != ';') =
      (store.encode s.name s.values time).toList := by
    apply Cut.takeWhile_append_of_ends
    · intro c hc
      have hplain : c ≠ ';' := (store.isPlain_encode _ _ _ c hc).2.2.2.1
      simp [hplain]
    · intro c hc
      have hend : c = ';' := hmore c hc
      simp [hend]
  rw [Cookie.valueIn, hdrop, htake, String.ofList_toList]

theorem end_of_save (h : store.save s time = .ok (some text)) (hl : 0 < s.options.maxAge) :
    time + s.options.maxAge ≤ Calendar.lastSecond := by
  have hr := render?_of_save h (by omega)
  have hlife : (s.options.lifetime? time).isSome = true := by
    cases hl : s.options.lifetime? time with
    | none =>
        rw [CookieOptions.render?, CookieOptions.pieces?, hl] at hr
        cases hr
    | some lifetime => rfl
  rw [CookieOptions.lifetime?, if_pos hl, Option.isSome_map] at hlife
  exact ((DateTime.ofUnix?_isSome_iff _).1 hlife).2

/-- Within the calendar no age is too large to be compared. -/
theorem isExpired_iff (ht : Calendar.firstSecond ≤ time) (hle : time ≤ now)
    (hn : now ≤ Calendar.lastSecond) :
    store.isExpired time now = true ↔
      0 < store.defaults.maxAge ∧ store.defaults.maxAge < now - time := by
  have hsigned : Word64.IsSigned (now - time) := by
    unfold Calendar.firstSecond Calendar.lastSecond at *
    unfold Word64.IsSigned Word64.minSigned Word64.maxSigned
    omega
  simp [isExpired, Word64.saturate_of_isSigned hsigned]

/-- The store can read the values back when it has signed them. -/
def CanRead (time : Int) (values : Json.Members) : Prop :=
  (readPayload? (payloadText values time)).isSome = true

theorem ReadsBack.canRead {values : Json.Members} (h : ReadsBack time values) :
    CanRead time values := by
  rw [CanRead, readPayload?_payloadText h]
  rfl

/-- A cookie with a lifetime is refused as too old exactly if it can be read and is older
than the default lifetime of the store. So it is refused once older than its own lifetime,
and not before, if this is the default; and if it is not, then there is a time at which the
cookie is refused too early or taken too late. -/
theorem decode_saved_iff (saved : store.save s time = .ok (some text))
    (lasting : 0 < s.options.maxAge) (begun : Calendar.firstSecond ≤ time) :
    (∀ now, time ≤ now → now ≤ Calendar.lastSecond →
      (store.decode s.name (Cookie.valueIn s.name text) now = .error .expired ↔
        CanRead time s.values ∧ 0 < store.defaults.maxAge ∧
          store.defaults.maxAge < now - time)) ∧
    (CanRead time s.values → s.options.maxAge = store.defaults.maxAge →
      ∀ now, time ≤ now → now ≤ Calendar.lastSecond →
        (store.decode s.name (Cookie.valueIn s.name text) now = .error .expired ↔
          s.options.maxAge < now - time)) ∧
    (CanRead time s.values → s.options.maxAge ≠ store.defaults.maxAge →
      time + s.options.maxAge < Calendar.lastSecond →
      ∃ now, time ≤ now ∧ now ≤ Calendar.lastSecond ∧
        ¬ (store.decode s.name (Cookie.valueIn s.name text) now = .error .expired ↔
          s.options.maxAge < now - time)) := by
  have hend := end_of_save saved lasting
  have hsigned : Word64.IsSigned time := by
    unfold Calendar.firstSecond Calendar.lastSecond at *
    unfold Word64.IsSigned Word64.minSigned Word64.maxSigned
    omega
  have hdecode : ∀ now, time ≤ now → now ≤ Calendar.lastSecond →
      (store.decode s.name (Cookie.valueIn s.name text) now = .error .expired ↔
        CanRead time s.values ∧ 0 < store.defaults.maxAge ∧
          store.defaults.maxAge < now - time) := by
    intro now hle hlast
    rw [valueIn_of_save saved (by omega), decode_encode_eq_expired_iff hsigned,
      isExpired_iff begun hle hlast]
    rfl
  refine ⟨hdecode, ?_, ?_⟩
  · intro hread hsame now hle hlast
    rw [hdecode now hle hlast]
    constructor
    · rintro ⟨_, _, hold⟩
      omega
    · intro hold
      exact ⟨hread, by omega, by omega⟩
  · intro hread hother hroom
    by_cases hlong : 0 < store.defaults.maxAge ∧ store.defaults.maxAge < s.options.maxAge
    · -- refused although its own lifetime is not over
      refine ⟨time + store.defaults.maxAge + 1, by omega, by omega, fun h => ?_⟩
      have hold := h.1 ((hdecode _ (by omega) (by omega)).2 ⟨hread, by omega, by omega⟩)
      omega
    · -- taken although its own lifetime is over
      refine ⟨time + s.options.maxAge + 1, by omega, by omega, fun h => ?_⟩
      have hold := ((hdecode _ (by omega) (by omega)).1 (h.2 (by omega))).2
      omega

/-- The session of a user who has signed in, with a lifetime. -/
def signedInFor (maxAge : Int) : Session :=
  ((Session.fresh "sid" {} none).set "user" (.string "ana")).setMaxAge maxAge

theorem isSendable_signedInFor {maxAge : Int} (hl : 0 < maxAge) (hf : Calendar.firstSecond ≤ time)
    (hend : time + maxAge ≤ Calendar.lastSecond) : (signedInFor maxAge).IsSendable time where
  name := show Session.IsName "sid" by decide
  values := by
    intro entry he
    cases List.mem_singleton.1 he
    exact .string "ana"
  canonical := rfl
  path := show IsPrintableText "/" by decide
  domain := fun _ h => nomatch h
  lifetime := by
    have hcalendar : (DateTime.ofUnix? (time + maxAge)).isSome = true :=
      (DateTime.ofUnix?_isSome_iff _).2 ⟨by omega, hend⟩
    show (CookieOptions.lifetime? { maxAge := maxAge } time).isSome = true
    rw [CookieOptions.lifetime?, if_pos hl, Option.isSome_map]
    exact hcalendar

/-- With the default lifetime, a cookie is refused once it is older. -/
theorem month_expires_on_time :
    ∃ text, (⟨[0x6B], {}⟩ : CookieStore).save (signedInFor 2592000) 1000 = .ok (some text) ∧
      ∀ now, 1000 ≤ now → now ≤ Calendar.lastSecond →
        ((⟨[0x6B], {}⟩ : CookieStore).decode "sid" (Cookie.valueIn "sid" text) now =
          .error .expired ↔ 2592000 < now - 1000) := by
  have hs : (signedInFor 2592000).IsSendable 1000 :=
    isSendable_signedInFor (by decide) (by decide) (by decide)
  obtain ⟨text, saved, _⟩ := Client.save_of_isSendable (by decide) hs ⟨[0x6B], {}⟩
  have hread : CanRead 1000 (signedInFor 2592000).values := (hs.readsBack (by decide)).canRead
  exact ⟨text, saved, (decode_saved_iff saved (by decide) (by decide)).2.1 hread rfl⟩

/-- A cookie that is to live for a hundred years is refused after less than twenty-five. -/
theorem century_expires_early :
    ∃ text,
      (⟨[0x6B], {}⟩ : CookieStore).save (signedInFor 3153600000) 1000000000 = .ok (some text) ∧
      (⟨[0x6B], {}⟩ : CookieStore).decode "sid" (Cookie.valueIn "sid" text) 1760000000 =
        .error .expired ∧
      ¬ (signedInFor 3153600000).options.maxAge < 1760000000 - 1000000000 := by
  have hs : (signedInFor 3153600000).IsSendable 1000000000 :=
    isSendable_signedInFor (by decide) (by decide) (by decide)
  obtain ⟨text, saved, _⟩ := Client.save_of_isSendable (by decide) hs ⟨[0x6B], {}⟩
  have hvalue := valueIn_of_save saved (by decide)
  have hname : (signedInFor 3153600000).name = "sid" := rfl
  refine ⟨text, saved, ?_, by decide⟩
  rw [← hname, hvalue, decode_encode (hs.readsBack (by decide))]
  rfl

end CookieStore

end Formwork
