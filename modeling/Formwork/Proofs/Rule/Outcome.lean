import Formwork.Rule.Schema
import Formwork.Proofs.Sequence

/-! # What validation makes of each field

Validation is a loop over fields, and a field a loop over steps. The lemmas here
say once what both loops do: a schema holds the steps of every field that has
rules, a form is refused only if some field is broken, and the data of a valid
form hold exactly what each field kept. On the level of steps, `Passes` names the
steps that were taken with the skip flag down.
-/

namespace Formwork

namespace Schema

/-! ## Compiled schemas -/

/-- The steps of a field that has rules. -/
def steps? (schema : Schema) (field : String) : Option (List Step) := schema.fields.get? field

@[simp] theorem steps?_withOverrides (schema : Schema) (overrides : Overrides) (field : String) :
    (schema.withOverrides overrides).steps? field = schema.steps? field := rfl

/-- Reading the declarations of fields keeps the fields and their order. -/
theorem lookup_of_forall₂ {vocabulary : Vocabulary} {entries : List (String × RuleSpec)}
    {fields : List (String × List Step)}
    (h : List.Forall₂ (fun x y => (Step.ofSpec vocabulary x.2).map (fun steps => (x.1, steps)) =
      .ok y) entries fields) :
    fields.map Prod.fst = entries.map Prod.fst ∧
      ∀ field, fields.lookup field =
        (entries.lookup field).bind fun spec => (Step.ofSpec vocabulary spec).toOption := by
  induction h with
  | nil => simp
  | @cons x y _ _ hxy _ ih =>
      obtain ⟨steps, hs, rfl⟩ := map_eq_ok.1 hxy
      refine ⟨by simp [ih.1], ?_⟩
      intro field
      by_cases hk : field = x.1
      · simp [Pairs.lookup_cons, hk, hs, Except.toOption]
      · simpa [Pairs.lookup_cons, hk] using ih.2 field

/-- A compiled schema has the steps of exactly the fields that are declared. -/
theorem steps?_compile {rules : Rules} {vocabulary : Vocabulary} {schema : Schema}
    (h : compile rules vocabulary = .ok schema) (field : String) :
    schema.steps? field =
      (rules.get? field).bind fun spec => (Step.ofSpec vocabulary spec).toOption := by
  unfold compile at h
  obtain ⟨fields, hf, hs⟩ := bind_eq_ok.1 h
  cases hs
  obtain ⟨hk, hl⟩ := lookup_of_forall₂ (forall₂_of_mapM_eq_ok hf)
  have he : (Dict.ofList fields).entries = fields :=
    Dict.entries_ofList (by rw [hk]; exact rules.nodup)
  rw [steps?, Dict.get?, he, hl field]
  rfl

end Schema

/-! ## Steps of a field -/

namespace Step

/-- The state that a step leaves once its rule has accepted: a step without argument
makes its input the working value where there is none. -/
def settle (step : Step) (text : String) (state : FieldState) : FieldState :=
  { state with
    working := state.working.or (if step.argument = none then some (.text text) else none) }

theorem run_eq_map (step : Step) (source : Source) (field : String) (state : FieldState) :
    step.run source field state =
      (step.rule.check source field (step.input source field) state).map
        (step.settle (step.input source field)) := by
  obtain ⟨rule, argument⟩ := step
  unfold run
  dsimp only
  cases rule.check source field (input ⟨rule, argument⟩ source field) state with
  | error refusal => rfl
  | ok next =>
      obtain ⟨working, skips⟩ := next
      cases argument <;> cases working <;> rfl

end Step

/-- The steps are taken one after the other, the skip flag being down in front of
each. -/
inductive Passes (source : Source) (field : String) :
    FieldState → List Step → FieldState → Prop
  | nil (state : FieldState) : Passes source field state [] state
  | cons {state next last : FieldState} {step : Step} {steps : List Step}
      (down : state.skips = false) (run : step.run source field state = .ok next)
      (rest : Passes source field next steps last) : Passes source field state (step :: steps) last

namespace FieldOutcome

variable {source : Source} {field : String}

/-- Once the skip flag is up, no further step is taken. -/
theorem runFrom_of_skips {state : FieldState} (h : state.skips = true) (kept : Option Value)
    (steps : List Step) : runFrom source field state kept steps = passed kept := by
  cases steps with
  | nil => rfl
  | cons step steps => simp [runFrom, h]

end FieldOutcome

/-! ## Fields of a form -/

namespace FieldOutcome

/-- The value that a field holds in the data of a valid form. -/
def kept? : FieldOutcome → Option Value
  | passed kept => kept
  | failed _ _ => none
  | broken _ => none

/-- The rules of the field are broken. -/
def IsBroken (o : FieldOutcome) : Prop := ∃ error, o = broken error

/-- The message that a schema gives to a field, if its input breaks a rule. -/
def message? (schema : Schema) (field : String) : FieldOutcome → Option String
  | passed _ => none
  | failed rule reason => some (schema.message field rule reason)
  | broken _ => none

theorem eq_passed {o : FieldOutcome} {schema : Schema} {field : String} (hb : ¬ o.IsBroken)
    (hm : o.message? schema field = none) : o = passed o.kept? := by
  cases o with
  | passed kept => rfl
  | failed rule reason => cases hm
  | broken error => exact absurd ⟨error, rfl⟩ hb

end FieldOutcome

namespace Schema

variable {schema : Schema} {source : Source}

/-- Validation gives a result exactly if no field is broken. -/
theorem validateFields_isOk_iff {entries : List (String × List Step)} {data : FormData}
    {errors : FieldErrors} :
    (∃ result, schema.validateFields source data errors entries = .ok result) ↔
      ∀ entry ∈ entries, ¬ (FieldOutcome.run source entry.1 entry.2).IsBroken := by
  induction entries generalizing data errors with
  | nil => simp [validateFields]
  | cons entry rest ih =>
      obtain ⟨field, steps⟩ := entry
      rw [List.forall_mem_cons]
      unfold validateFields
      cases hr : FieldOutcome.run source field steps with
      | broken error => simp [FieldOutcome.IsBroken]
      | failed rule reason => simpa [FieldOutcome.IsBroken] using ih
      | passed kept => cases kept <;> simpa [FieldOutcome.IsBroken] using ih

/-- Validating fields with distinct names adds to the data what each of them kept, and
to the errors a message for each that failed. -/
theorem get?_of_validateFields {entries : List (String × List Step)} {data data' : FormData}
    {errors errors' : FieldErrors} (hn : (entries.map Prod.fst).Nodup)
    (h : schema.validateFields source data errors entries = .ok (data', errors'))
    (field : String) :
    data'.get? field =
        ((entries.lookup field).bind fun steps =>
          (FieldOutcome.run source field steps).kept?).or (data.get? field) ∧
      errors'.get? field =
        ((entries.lookup field).bind fun steps =>
          (FieldOutcome.run source field steps).message? schema field).or (errors.get? field) := by
  induction entries generalizing data errors with
  | nil =>
      cases h
      simp
  | cons entry rest ih =>
      obtain ⟨name, steps⟩ := entry
      rw [List.map_cons, List.nodup_cons] at hn
      unfold validateFields at h
      by_cases hk : field = name
      · -- no other entry is of this field
        subst hk
        have hrest : rest.lookup field = none := Pairs.lookup_eq_none_iff.2 hn.1
        split at h
        · cases h
        all_goals
          rename_i hr
          rw [(ih hn.2 h).1, (ih hn.2 h).2]
          simp [Pairs.lookup_cons, hrest, hr, FieldOutcome.kept?, FieldOutcome.message?]
      · split at h
        · cases h
        all_goals
          rw [(ih hn.2 h).1, (ih hn.2 h).2]
          simp [Pairs.lookup_cons, hk]

/-- A form is validated exactly if no field is broken. -/
theorem validate_isOk_iff :
    (∃ outcome, schema.validate source = .ok outcome) ↔
      ∀ field steps, schema.steps? field = some steps →
        ¬ (FieldOutcome.run source field steps).IsBroken := by
  have hv : (∃ outcome, schema.validate source = .ok outcome) ↔
      ∃ result, schema.validateFields source ∅ ∅ schema.fields.entries = .ok result := by
    constructor
    · rintro ⟨outcome, h⟩
      obtain ⟨result, hr, _⟩ := bind_eq_ok.1 h
      exact ⟨result, hr⟩
    · rintro ⟨result, hr⟩
      exact ⟨_, bind_eq_ok.2 ⟨result, hr, rfl⟩⟩
  rw [hv, validateFields_isOk_iff]
  constructor
  · intro h field steps hs
    exact h (field, steps) (Dict.get?_eq_some_iff.1 hs)
  · intro h entry he
    exact h entry.1 entry.2 (Dict.get?_eq_some_iff.2 he)

/-- In a valid form every field with rules passes, and the data hold what it kept. -/
theorem run_of_validate {data : FormData} (h : schema.validate source = .ok (.valid data))
    {field : String} {steps : List Step} (hs : schema.steps? field = some steps) :
    FieldOutcome.run source field steps = .passed (data.get? field) := by
  have hb := validate_isOk_iff.1 ⟨_, h⟩ field steps hs
  obtain ⟨⟨data', errors⟩, hv, hr⟩ := bind_eq_ok.1 h
  have hd : data' = data ∧ errors.isEmpty = true := by
    simp only [pure, Except.pure, Except.ok.injEq] at hr
    split at hr <;> cases hr
    exact ⟨rfl, by assumption⟩
  obtain ⟨rfl, he⟩ := hd
  obtain ⟨hkept, hmessage⟩ := get?_of_validateFields schema.fields.nodup hv field
  have hl : schema.fields.entries.lookup field = some steps := hs
  rw [hl, Dict.get?_empty, Option.or_none] at hkept hmessage
  rw [Dict.isEmpty_iff.1 he field] at hmessage
  rw [hkept]
  exact FieldOutcome.eq_passed hb hmessage.symm

/-- A field without rules is in no data. -/
theorem get?_of_steps?_eq_none {data : FormData} (h : schema.validate source = .ok (.valid data))
    {field : String} (hs : schema.steps? field = none) : data.get? field = none := by
  obtain ⟨⟨data', errors⟩, hv, hr⟩ := bind_eq_ok.1 h
  have hd : data' = data := by
    simp only [pure, Except.pure, Except.ok.injEq] at hr
    split at hr <;> cases hr
    rfl
  subst hd
  have hl : schema.fields.entries.lookup field = none := hs
  rw [(get?_of_validateFields schema.fields.nodup hv field).1, hl]
  rfl

/-! ## The verdict on a form -/

/-- How the rules of a field end, if it has any. -/
def outcome? (schema : Schema) (source : Source) (field : String) : Option FieldOutcome :=
  (schema.steps? field).map (FieldOutcome.run source field)

/-- The message for a field whose input breaks a rule. -/
def error? (schema : Schema) (source : Source) (field : String) : Option String :=
  (schema.outcome? source field).bind (·.message? schema field)

/-- The value that a field holds in the data of a valid form. -/
def kept? (schema : Schema) (source : Source) (field : String) : Option Value :=
  (schema.outcome? source field).bind FieldOutcome.kept?

/-- No field has broken rules. -/
def IsSound (schema : Schema) (source : Source) : Prop :=
  ∀ field error, schema.outcome? source field ≠ some (.broken error)

/-- What comes of a form, said of each field apart. -/
inductive Yields (schema : Schema) (source : Source) : Except RuleError Validated → Prop
  | refused {field : String} {error : RuleError}
      (broken : schema.outcome? source field = some (.broken error)) :
      Yields schema source (.error error)
  | invalid {errors : FieldErrors} {field : String} (sound : schema.IsSound source)
      (fails : schema.error? source field ≠ none)
      (all : ∀ field, errors.get? field = schema.error? source field) :
      Yields schema source (.ok (.invalid errors))
  | valid {data : FormData} (sound : schema.IsSound source)
      (passes : ∀ field, schema.error? source field = none)
      (all : ∀ field, data.get? field = schema.kept? source field) :
      Yields schema source (.ok (.valid data))

/-- The mistake that ends a validation is one in the rules of a field. -/
theorem broken_of_validateFields {entries : List (String × List Step)} {data : FormData}
    {errors : FieldErrors} {error : RuleError}
    (h : schema.validateFields source data errors entries = .error error) :
    ∃ entry ∈ entries, FieldOutcome.run source entry.1 entry.2 = .broken error := by
  induction entries generalizing data errors with
  | nil => cases h
  | cons entry rest ih =>
      obtain ⟨field, steps⟩ := entry
      unfold validateFields at h
      cases hr : FieldOutcome.run source field steps with
      | broken found =>
          rw [hr] at h
          cases h
          exact ⟨_, List.mem_cons_self, hr⟩
      | failed rule reason =>
          rw [hr] at h
          obtain ⟨other, hm, ho⟩ := ih h
          exact ⟨other, List.mem_cons_of_mem _ hm, ho⟩
      | passed kept =>
          rw [hr] at h
          cases kept with
          | none =>
              obtain ⟨other, hm, ho⟩ := ih h
              exact ⟨other, List.mem_cons_of_mem _ hm, ho⟩
          | some value =>
              obtain ⟨other, hm, ho⟩ := ih h
              exact ⟨other, List.mem_cons_of_mem _ hm, ho⟩

theorem yields_validate (schema : Schema) (source : Source) :
    schema.Yields source (schema.validate source) := by
  unfold validate
  cases hv : schema.validateFields source ∅ ∅ schema.fields.entries with
  | error error =>
      obtain ⟨entry, hm, hb⟩ := broken_of_validateFields hv
      have hs : schema.steps? entry.1 = some entry.2 := Dict.get?_eq_some_iff.2 hm
      have ho : schema.outcome? source entry.1 = some (.broken error) := by
        rw [outcome?, hs, Option.map_some, hb]
      exact .refused ho
  | ok result =>
      obtain ⟨data, errors⟩ := result
      have hsound : schema.IsSound source := by
        intro field error ho
        obtain ⟨steps, hs, hb⟩ := Option.map_eq_some_iff.1 ho
        exact validateFields_isOk_iff.1 ⟨_, hv⟩ (field, steps) (Dict.get?_eq_some_iff.1 hs)
          ⟨error, hb⟩
      have hspec : ∀ field, data.get? field = schema.kept? source field ∧
          errors.get? field = schema.error? source field := by
        intro field
        obtain ⟨hdata, herrors⟩ := get?_of_validateFields schema.fields.nodup hv field
        rw [Dict.get?_empty, Option.or_none] at hdata herrors
        rw [hdata, herrors, kept?, error?, outcome?, Option.bind_map, Option.bind_map]
        exact ⟨rfl, rfl⟩
      by_cases he : errors.isEmpty = true
      · have hpasses : ∀ field, schema.error? source field = none := fun field => by
          rw [← (hspec field).2]
          exact Dict.isEmpty_iff.1 he field
        simpa [bind, Except.bind, pure, Except.pure, he] using
          Yields.valid hsound hpasses fun field => (hspec field).1
      · obtain ⟨field, hf⟩ : ∃ field, errors.get? field ≠ none := by
          by_contra hall
          exact he (Dict.isEmpty_iff.2 (by simpa using hall))
        have hfails : schema.error? source field ≠ none := by
          rw [← (hspec field).2]
          exact hf
        simpa [bind, Except.bind, pure, Except.pure, he] using
          Yields.invalid hsound hfails fun field => (hspec field).2

end Schema

end Formwork
