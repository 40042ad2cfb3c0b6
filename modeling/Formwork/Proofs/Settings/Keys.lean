import Formwork.Proofs.Text.Cut
import Formwork.Settings.Reading

/-! # Keys under `testing`

A value of the mapping `testing` can be asked for in two ways: by its key in that mapping, and by
the key of the whole document, which begins with `testing.`. The first takes its key for one name,
the second cuts it at full stops. So the two agree on every document exactly for the keys without
a full stop (`Settings.testingValue?_eq_find?_iff`).
-/

namespace Formwork

namespace Settings

variable {settings : Settings} {document : Yaml} {key name text : String}

/-! ## Accepted settings -/

/-- The settings are what their document says, and nothing is wrong with them. -/
structure IsAccepted (settings : Settings) : Prop where
  read : ofYaml? settings.document = some settings
  sound : settings.problems = []

theorem document_of_ofYaml? (h : ofYaml? document = some settings) :
    settings.document = document := by
  simp only [ofYaml?, Option.bind_eq_bind, Option.bind_eq_some_iff, Option.pure_def,
    Option.some.injEq] at h
  obtain ⟨_, _, _, _, _, _, _, _, _, _, _, _, _, _, rfl⟩ := h
  rfl

/-- Settings are read from a text exactly if they are accepted for its document. -/
theorem parse_eq_ok_iff :
    parse text = .ok settings ↔ Yaml.parse? text = some settings.document ∧ settings.IsAccepted := by
  unfold parse
  constructor
  · intro h
    split at h
    · cases h
    · rename_i found hf
      split at h
      · rename_i hp
        cases h
        obtain ⟨document, hd, hr⟩ := Option.bind_eq_some_iff.1 hf
        cases document_of_ofYaml? hr
        exact ⟨hd, hr, hp⟩
      · cases h
  · rintro ⟨hd, hr, hp⟩
    rw [hd, Option.bind_some, hr]
    simp only [hp]

/-! ## The two look-ups -/

theorem split_testing (key : String) :
    Text.split '.' ("testing." ++ key) = "testing" :: Text.split '.' key := by
  have hchars : ("testing." ++ key).toList = "testing".toList ++ '.' :: key.toList := by
    simp
  rw [Text.split_append hchars (by decide), String.ofList_toList]

theorem find?_testing (settings : Settings) :
    settings.find? "testing" = settings.document.member? "testing" := by
  have hsplit : Text.split '.' "testing" = ["testing"] := Text.split_of_not_mem (by decide)
  rw [find?, if_neg (by decide), hsplit]
  cases hm : settings.document.member? "testing" <;> simp [Yaml.memberAlong?, hm]

/-- Behind `testing.` the key leads from the mapping `testing` along its parts. -/
theorem find?_testing_append (settings : Settings) (key : String) :
    settings.find? ("testing." ++ key) =
      (settings.find? "testing").bind fun inner => inner.memberAlong? (Text.split '.' key) := by
  have hne : ("testing." ++ key).isEmpty = false := by
    rw [← Bool.not_eq_true, String.isEmpty_iff, ← String.toList_inj]
    simp
  rw [find?_testing, find?, hne, if_neg (by decide), split_testing, Yaml.memberAlong?]

/-- A document whose mapping `testing` holds one key as it is. -/
def withTestingKey (key : String) : Settings :=
  { port := 8080
    document := .map [(.text "port", .int 8080), (.text "testing", .map [(.text key, .int 1)])] }

theorem isAccepted_withTestingKey (key : String) : (withTestingKey key).IsAccepted :=
  ⟨rfl, rfl⟩

/-- The two ways to a value under `testing` agree on all settings that are accepted exactly if
there is no full stop in the key. -/
theorem testingValue?_eq_find?_iff (key : String) :
    (∀ settings : Settings, settings.IsAccepted →
        settings.testingValue? key = settings.find? ("testing." ++ key)) ↔
      '.' ∉ key.toList := by
  constructor
  · intro h hdot
    have he := h (withTestingKey key) (isAccepted_withTestingKey key)
    obtain ⟨hne, hfree, _⟩ := Text.split_spec '.' key
    rw [testingValue?, find?_testing_append, find?_testing] at he
    cases hs : Text.split '.' key with
    | nil => exact hne hs
    | cons first others =>
        -- the first part is not the whole key, so nothing is found under it
        have hfirst : key ≠ first := by
          rintro rfl
          exact hfree _ (by rw [hs]; exact List.mem_cons_self) hdot
        simp [hs, withTestingKey, Yaml.member?, Yaml.asMap?, Yaml.untagged, Yaml.valueUnder?,
          Yaml.memberAlong?, hfirst] at he
  · intro hdot settings _
    rw [testingValue?, find?_testing_append, Text.split_of_not_mem hdot]
    congr 1
    funext inner
    cases hm : inner.member? key <;> simp [Yaml.memberAlong?, hm]

/-- A value in a mapping within `testing` is found by the key of the document only. -/
theorem nested_testing_missed :
    ∃ settings, parse "port: 8080\ntesting:\n  db:\n    host: x\n" = .ok settings ∧
      settings.testingValue? "db.host" = none ∧
      settings.find? ("testing." ++ "db.host") = some (.text "x") := by
  let text := "port: 8080\ntesting:\n  db:\n    host: x\n"
  have hread : (parse text).toOption.isSome = true := by decide +kernel
  have hmissed : ((parse text).toOption.bind fun settings =>
      settings.testingValue? "db.host").isNone = true := by decide +kernel
  have hfound : ((parse text).toOption.bind fun settings =>
      settings.find? ("testing." ++ "db.host")).bind Yaml.bareText? = some "x" := by decide +kernel
  show ∃ settings, parse text = .ok settings ∧ _
  cases hp : parse text with
  | error error =>
      rw [hp] at hread
      cases hread
  | ok settings =>
      rw [hp] at hmissed hfound
      obtain ⟨value, hv, hx⟩ := Option.bind_eq_some_iff.1 hfound
      cases value with
      | text x =>
          cases hx
          exact ⟨settings, rfl, Option.isNone_iff_eq_none.1 hmissed, hv⟩
      | _ => cases hx

end Settings

end Formwork
