import Formwork.Proofs.Rule.Outcome

/-! # What a client says of a file decides nothing

An uploaded file comes with a name and a media type that the client has made up. Every rule can
see them, since files are working values. Still nothing depends on them: to take them off all
files commutes with each check, and so with each step, with each field and with validation
(`Schema.validate_unlabelled`). Forms that are the same but for these labels are refused for the
same mistake, or invalid with the same messages, or valid with data that are the same but for
labels (`MultipartForm.validate_sameButLabels`).
-/

namespace Formwork

namespace Dict

variable {α β : Type}

theorem put_map (f : α → β) (key : String) (value : α) (entries : List (String × α)) :
    (put key value entries).map (Prod.map id f) =
      put key (f value) (entries.map (Prod.map id f)) := by
  induction entries with
  | nil => rfl
  | cons entry entries ih =>
      by_cases hk : entry.1 = key
      · simp [put, hk]
      · simp [put, hk, ih]

/-- The dictionary with each value replaced by what a function makes of it. -/
def map (f : α → β) (d : Dict α) : Dict β :=
  ⟨d.entries.map (Prod.map id f), by simpa [Function.comp_def] using d.nodup⟩

theorem map_insert (f : α → β) (d : Dict α) (key : String) (value : α) :
    (d.insert key value).map f = (d.map f).insert key (f value) := by
  simp only [map, insert, put_map]

end Dict

/-! ## Without labels -/

/-- The file without what the client says of it. -/
def File.unlabelled (f : File) : File := { f with filename := none, contentType := none }

/-- The value, without labels if it is a file. -/
def Value.unlabelled : Value → Value
  | .file f => .file f.unlabelled
  | other => other

/-- The data with files without labels. -/
def FormData.unlabelled (data : FormData) : FormData := data.map Value.unlabelled

/-- The state with a working value without labels. -/
def FieldState.unlabelled (state : FieldState) : FieldState :=
  { state with working := state.working.map Value.unlabelled }

/-- The outcome of a field with its value without labels. -/
def FieldOutcome.unlabelled : FieldOutcome → FieldOutcome
  | .passed kept => .passed (kept.map Value.unlabelled)
  | .failed rule reason => .failed rule reason
  | .broken error => .broken error

/-- The result of a validation with files without labels. -/
def Validated.unlabelled : Validated → Validated
  | .valid data => .valid data.unlabelled
  | .invalid errors => .invalid errors

/-- The form with files without labels, as validation sees it. -/
def Source.unlabelled (source : Source) : Source :=
  { source with file? := fun key => (source.file? key).map File.unlabelled }

@[simp] theorem Value.kind_unlabelled (v : Value) : v.unlabelled.kind = v.kind := by
  cases v <;> rfl

/-! ## One check -/

namespace Rule

variable {rule : Rule} {field text : String} {state : FieldState}

theorem accept_unlabelled (condition : Bool) (reason : Failure) (state : FieldState) :
    accept condition reason state.unlabelled =
      (accept condition reason state).map FieldState.unlabelled := by
  cases condition <;> rfl

theorem cannotHandle_unlabelled (rule : Rule) (field : String) (found : Option Value) :
    cannotHandle rule field (found.map Value.unlabelled) =
      (cannotHandle rule field found).map FieldState.unlabelled := by
  cases found <;> simp [cannotHandle, Except.map]

theorem bound_bind_unlabelled {f g : Int → Except Refusal FieldState}
    (h : ∀ n, f n = (g n).map FieldState.unlabelled) (rule : Rule) (field text : String) :
    (rule.bound field text >>= f) = (rule.bound field text >>= g).map FieldState.unlabelled := by
  cases rule.bound field text with
  | error refusal => rfl
  | ok n => exact h n

/-- No check looks at the labels of a file: without them it does the same. -/
theorem check_unlabelled (rule : Rule) (source : Source) (field text : String)
    (state : FieldState) :
    rule.check source.unlabelled field text state.unlabelled =
      (rule.check source field text state).map FieldState.unlabelled := by
  cases rule
  case required => exact accept_unlabelled _ _ { state with working := some (.text text) }
  case int => simp only [check]; split <;> rfl
  case string => rfl
  case email => exact accept_unlabelled _ _ state
  case optional => rfl
  case url => simp only [check]; split <;> rfl
  case boolean => simp only [check]; split <;> rfl
  case confirm => exact accept_unlabelled _ _ state
  case alphaNum => exact accept_unlabelled _ _ state
  case optionalFile =>
    simp only [check, Source.unlabelled]
    cases source.file? field <;> rfl
  case requiredFile =>
    simp only [check, Source.unlabelled]
    cases source.file? field <;> rfl
  -- the others look at the working value
  all_goals
    obtain ⟨working, skips⟩ := state
  case min =>
    refine bound_bind_unlabelled (fun n => ?_) .min field text
    obtain _ | value := working
    · exact cannotHandle_unlabelled .min field none
    · cases value
      case text s => exact accept_unlabelled _ _ _
      case int m => exact accept_unlabelled _ _ _
      all_goals exact cannotHandle_unlabelled .min field (some _)
  case max =>
    refine bound_bind_unlabelled (fun n => ?_) .max field text
    obtain _ | value := working
    · exact cannotHandle_unlabelled .max field none
    · cases value
      case text s => exact accept_unlabelled _ _ _
      case int m => exact accept_unlabelled _ _ _
      all_goals exact cannotHandle_unlabelled .max field (some _)
  case date =>
    obtain _ | value := working
    · exact cannotHandle_unlabelled .date field none
    · cases value
      case text s =>
        simp only [check, FieldState.unlabelled, Option.map_some, Value.unlabelled]
        split <;> rfl
      all_goals exact cannotHandle_unlabelled .date field (some _)
  case true =>
    obtain _ | value := working
    · exact cannotHandle_unlabelled .true field none
    · cases value
      case bool b => exact accept_unlabelled _ _ _
      all_goals exact cannotHandle_unlabelled .true field (some _)
  case contentType =>
    obtain _ | value := working
    · exact cannotHandle_unlabelled .contentType field none
    · cases value
      case file f => exact accept_unlabelled _ _ _
      all_goals exact cannotHandle_unlabelled .contentType field (some _)
  case maxBytes =>
    refine bound_bind_unlabelled (fun n => ?_) .maxBytes field text
    obtain _ | value := working
    · exact cannotHandle_unlabelled .maxBytes field none
    · cases value
      case file f => exact accept_unlabelled _ _ _
      all_goals exact cannotHandle_unlabelled .maxBytes field (some _)

end Rule

/-! ## Steps, fields and forms -/

theorem Step.run_unlabelled (step : Step) (source : Source) (field : String)
    (state : FieldState) :
    step.run source.unlabelled field state.unlabelled =
      (step.run source field state).map FieldState.unlabelled := by
  have hinput : step.input source.unlabelled field = step.input source field := rfl
  rw [run_eq_map, run_eq_map, hinput, Rule.check_unlabelled]
  cases step.rule.check source field (step.input source field) state with
  | error refusal => rfl
  | ok next =>
      obtain ⟨working, skips⟩ := next
      cases working with
      | some value => rfl
      | none =>
          simp only [Except.map, settle, FieldState.unlabelled]
          split <;> rfl

theorem FieldOutcome.runFrom_unlabelled (source : Source) (field : String) (state : FieldState)
    (kept : Option Value) (steps : List Step) :
    runFrom source.unlabelled field state.unlabelled (kept.map Value.unlabelled) steps =
      (runFrom source field state kept steps).unlabelled := by
  induction steps generalizing state kept with
  | nil => rfl
  | cons step steps ih =>
      unfold runFrom
      rw [Step.run_unlabelled]
      by_cases hs : state.skips = true
      · simp [FieldState.unlabelled, hs, unlabelled]
      · have hs' : state.unlabelled.skips = false := by simpa [FieldState.unlabelled] using hs
        simp only [hs, hs', Bool.false_eq_true, if_false]
        cases step.run source field state with
        | error refusal => cases refusal <;> rfl
        | ok next =>
            have hkept : (if next.unlabelled.skips = true then kept.map Value.unlabelled
                else next.unlabelled.working.or (kept.map Value.unlabelled)) =
                (if next.skips = true then kept else next.working.or kept).map
                  Value.unlabelled := by
              obtain ⟨working, skips⟩ := next
              cases skips <;> cases working <;> rfl
            simp only [Except.map]
            rw [hkept]
            exact ih next _

theorem FieldOutcome.run_unlabelled (source : Source) (field : String) (steps : List Step) :
    run source.unlabelled field steps = (run source field steps).unlabelled :=
  runFrom_unlabelled source field {} none steps

namespace Schema

theorem validateFields_unlabelled (schema : Schema) (source : Source) (data : FormData)
    (errors : FieldErrors) (entries : List (String × List Step)) :
    schema.validateFields source.unlabelled data.unlabelled errors entries =
      (schema.validateFields source data errors entries).map fun result =>
        (result.1.unlabelled, result.2) := by
  induction entries generalizing data errors with
  | nil => rfl
  | cons entry entries ih =>
      obtain ⟨field, steps⟩ := entry
      unfold validateFields
      rw [FieldOutcome.run_unlabelled]
      cases FieldOutcome.run source field steps with
      | broken error => rfl
      | failed rule reason => exact ih data _
      | passed kept =>
          cases kept with
          | none => exact ih data errors
          | some value =>
              have hnext := ih (data.insert field value) errors
              rw [FormData.unlabelled, Dict.map_insert] at hnext
              exact hnext

/-- To validate a form without labels gives what it gives with them, but for those of the files
in the data. -/
theorem validate_unlabelled (schema : Schema) (source : Source) :
    schema.validate source.unlabelled =
      (schema.validate source).map Validated.unlabelled := by
  have hfields := schema.validateFields_unlabelled source ∅ ∅ schema.fields.entries
  unfold validate
  rw [show FormData.unlabelled ∅ = ∅ from rfl] at hfields
  rw [hfields]
  cases schema.validateFields source ∅ ∅ schema.fields.entries with
  | error error => rfl
  | ok result =>
      obtain ⟨data, errors⟩ := result
      simp only [Except.map, bind, Except.bind, pure, Except.pure]
      split <;> rfl

end Schema

/-- The forms have the same values, and files with the same contents: only what the client says
of the files may differ. -/
structure MultipartForm.SameButLabels (a b : MultipartForm) : Prop where
  values : ∀ key, a.getAll key = b.getAll key
  contents : ∀ key, (a.getFiles key).map File.content = (b.getFiles key).map File.content

/-- The results of two validations are the same mistake, the same messages, or data that are the
same but for what the client says of files. -/
inductive Validated.SameButLabels :
    Except RuleError Validated → Except RuleError Validated → Prop
  | refused (error : RuleError) : SameButLabels (.error error) (.error error)
  | invalid (errors : FieldErrors) :
      SameButLabels (.ok (.invalid errors)) (.ok (.invalid errors))
  | valid {a b : FormData} (same : a.unlabelled = b.unlabelled) :
      SameButLabels (.ok (.valid a)) (.ok (.valid b))

theorem Validated.sameButLabels_of_map {a b : Except RuleError Validated}
    (h : a.map unlabelled = b.map unlabelled) : SameButLabels a b := by
  cases a with
  | error error =>
      cases b with
      | error other =>
          cases h
          exact .refused error
      | ok outcome => cases h
  | ok outcome =>
      cases b with
      | error error => cases h
      | ok other =>
          have ho : outcome.unlabelled = other.unlabelled := by
            simpa [Except.map] using h
          cases outcome with
          | invalid errors =>
              cases other with
              | invalid others =>
                  cases ho
                  exact .invalid errors
              | valid data => cases ho
          | valid data =>
              cases other with
              | invalid others => cases ho
              | valid others =>
                  simp only [unlabelled, valid.injEq] at ho
                  exact .valid ho

namespace MultipartForm

theorem SameButLabels.source {a b : MultipartForm} (h : a.SameButLabels b) :
    a.source.unlabelled = b.source.unlabelled := by
  have hget : a.get = b.get := by
    funext key
    rw [get, get, h.values]
  have hfile : ∀ (f : MultipartForm) (key : String), (f.getFile? key).map File.unlabelled =
      ((f.getFiles key).map File.content).head?.map fun content => ⟨none, none, content⟩ := by
    intro f key
    rw [getFile?]
    cases f.getFiles key <;> rfl
  simp only [Source.unlabelled, MultipartForm.source, hget, hfile, h.contents]

/-- Two multipart forms that differ in what the client says of their files only are validated
alike, by whatever rules and with whatever messages. -/
theorem validate_sameButLabels (rules : Rules) (overrides : Overrides) {a b : MultipartForm}
    (same : a.SameButLabels b) :
    Validated.SameButLabels (a.validate rules overrides) (b.validate rules overrides) := by
  apply Validated.sameButLabels_of_map
  unfold validate
  cases Schema.compile rules .multipart with
  | error error => rfl
  | ok schema =>
      show ((schema.withOverrides overrides).validate a.source).map Validated.unlabelled =
        ((schema.withOverrides overrides).validate b.source).map Validated.unlabelled
      rw [← Schema.validate_unlabelled, ← Schema.validate_unlabelled, same.source]

/-- A page that is said to be a picture, and the same page as what it is: neither passes. -/
theorem disguised_validates_alike :
    let rules : Rules := ⟨[("avatar", .piped "requiredFile|contentType:image/png")], by simp⟩
    let page : Bytes := Utf8.encode "<html></html>"
    let plain : MultipartForm := ⟨[], [("avatar", ⟨some "page.html", some "text/html", page⟩)]⟩
    let disguised : MultipartForm := ⟨[], [("avatar", ⟨some "cat.png", some "image/png", page⟩)]⟩
    plain.SameButLabels disguised ∧
      Validated.SameButLabels (plain.validate rules ∅) (disguised.validate rules ∅) ∧
      disguised.validate rules ∅ = .ok (.invalid
        ⟨[("avatar", "File avatar does not have a valid content type")], by simp⟩) := by
  intro rules page plain disguised
  have hsame : plain.SameButLabels disguised := by
    refine ⟨fun key => rfl, fun key => ?_⟩
    simp only [plain, disguised, getFiles, valuesOf, List.filter_cons, List.filter_nil]
    split <;> rfl
  exact ⟨hsame, validate_sameButLabels rules ∅ hsame, by decide⟩

end MultipartForm

end Formwork
