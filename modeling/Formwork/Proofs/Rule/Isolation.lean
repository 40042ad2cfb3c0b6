import Formwork.Proofs.Rule.Independence
import Formwork.Proofs.Rule.Reading

/-! # A field sees its own inputs only

Every rule of a field is handed the whole form. Still, how the field ends is settled by its
own value, by the value of its companion where it has `confirm` among its rules, and by its
own first file where a rule looks for files (`Source.AgreesOn`). Forms that agree on these
may differ in all else: the field ends in the same way, and what is shown of it in the data
or in the errors is the same (`Schema.agreesAt_of_agreesOn`).
-/

namespace Formwork

/-- The forms agree on the value of the field, on that of its companion if one of the steps
is `confirm`, and on its first file if one of them looks for files. -/
structure Source.AgreesOn (a b : Source) (field : String) (steps : List Step) : Prop where
  value : a.get field = b.get field
  companion : (∃ step ∈ steps, step.rule = .confirm) →
    a.get (Rule.companionOf field) = b.get (Rule.companionOf field)
  file : (∃ step ∈ steps, step.rule = .optionalFile ∨ step.rule = .requiredFile) →
    a.file? field = b.file? field

theorem Rule.readsFile_iff {rule : Rule} :
    rule.readsFile = Bool.true ↔ rule = .optionalFile ∨ rule = .requiredFile := by
  cases rule <;> simp [readsFile]

theorem Source.AgreesOn.agreesAt {a b : Source} {field : String} {steps : List Step}
    (h : a.AgreesOn b field steps) {step : Step} (hm : step ∈ steps) :
    a.AgreesAt b field step where
  input _ := h.value
  companion hc := h.companion ⟨step, hm, hc⟩
  file hf := h.file ⟨step, hm, Rule.readsFile_iff.1 hf⟩

namespace Schema

variable {schema : Schema} {a b : Source} {field : String}

/-- The field ends in the same way in both forms: with the same value, the same message, or
the same mistake in its rules, or it is left out of both. -/
structure AgreesAt (schema : Schema) (a b : Source) (field : String) : Prop where
  outcome : schema.outcome? a field = schema.outcome? b field
  alone : (schema.only field).validate a = (schema.only field).validate b
  errors : ∀ errors others, schema.validate a = .ok (.invalid errors) →
    schema.validate b = .ok (.invalid others) → errors.get? field = others.get? field
  data : ∀ data others, schema.validate a = .ok (.valid data) →
    schema.validate b = .ok (.valid others) → data.get? field = others.get? field
  unreported : ∀ data errors, schema.validate a = .ok (.valid data) →
    schema.validate b = .ok (.invalid errors) → errors.get? field = none

theorem outcome?_congr
    (h : ∀ steps, schema.steps? field = some steps → a.AgreesOn b field steps) :
    schema.outcome? a field = schema.outcome? b field := by
  unfold outcome?
  cases hs : schema.steps? field with
  | none => rfl
  | some steps =>
      have hrun : FieldOutcome.run a field steps = FieldOutcome.run b field steps := by
        apply FieldOutcome.run_congr
        intro step hm
        exact (h steps hs).agreesAt hm
      simp [hrun]

theorem validate_only_congr
    (h : ∀ steps, schema.steps? field = some steps → a.AgreesOn b field steps) :
    (schema.only field).validate a = (schema.only field).validate b := by
  apply validate_congr rfl rfl
  intro entry he step hm
  have hs : (schema.only field).steps? entry.1 = some entry.2 := Dict.get?_eq_some_iff.2 he
  -- the only entry is that of the field
  rw [steps?, only, Dict.get?_only] at hs
  by_cases hk : entry.1 = field
  · rw [if_pos hk, hk] at hs
    rw [hk]
    exact (h entry.2 hs).agreesAt hm
  · simp [hk] at hs

/-- Whatever else is in two forms, a field ends in the same way in both if they agree on its own
inputs, of which the companion and the file count only where the rules of the field ask for
them. -/
theorem agreesAt_of_agreesOn (schema : Schema) (overrides : Overrides) (field : String)
    (a b : Source) (agrees : ∀ steps, schema.steps? field = some steps → a.AgreesOn b field steps) :
    (schema.withOverrides overrides).AgreesAt a b field := by
  have hworded : ∀ steps, (schema.withOverrides overrides).steps? field = some steps →
      a.AgreesOn b field steps := agrees
  have houtcome := outcome?_congr hworded
  have herror : (schema.withOverrides overrides).error? a field =
      (schema.withOverrides overrides).error? b field := by
    rw [error?, error?, houtcome]
  constructor
  case outcome => exact houtcome
  case alone => exact validate_only_congr hworded
  case errors =>
    intro errors others ha hb
    rw [get?_of_invalid ha, get?_of_invalid hb, herror]
  case data =>
    intro data others ha hb
    rw [get?_of_valid ha, get?_of_valid hb, kept?, kept?, houtcome]
  case unreported =>
    intro data errors ha hb
    have hnone := ((exists_valid_iff _ a).1 ⟨data, ha⟩).2 field
    rw [get?_of_invalid hb, ← herror, hnone]

/-- A password that is repeated, beside another name and a file of the same key, and a name
beside another password and a file: either ends in the same way. -/
theorem signUp_agreesAt :
    let rules : Rules :=
      ⟨[("name", .piped "required|min:2"), ("password", .piped "required|confirm")], by simp⟩
    let picture : File := ⟨some "ana.png", some "image/png", [0x89, 0x50]⟩
    let plain := (MultipartForm.mk
      [("name", "Ana"), ("password", "abc"), ("password_confirm", "abc")] []).source
    let renamed := (MultipartForm.mk
      [("name", "B"), ("password", "abc"), ("password_confirm", "abc")]
      [("password", picture)]).source
    let mistyped := (MultipartForm.mk
      [("name", "Ana"), ("password", "abc"), ("password_confirm", "xyz")]
      [("name", picture)]).source
    ∃ schema, compile rules .multipart = .ok schema ∧
      (schema.withOverrides ∅).AgreesAt plain renamed "password" ∧
      (schema.withOverrides ∅).AgreesAt plain mistyped "name" := by
  intro rules picture plain renamed mistyped
  have hname : Step.ofSpec .multipart (.piped "required|min:2") =
      .ok [⟨.required, none⟩, ⟨.min, some "2"⟩] := by decide
  have hpassword : Step.ofSpec .multipart (.piped "required|confirm") =
      .ok [⟨.required, none⟩, ⟨.confirm, none⟩] := by decide
  obtain ⟨schema, hc⟩ : ∃ schema, compile rules .multipart = .ok schema :=
    ⟨_, by simp [compile, rules, hname, hpassword]; rfl⟩
  refine ⟨schema, hc, ?_, ?_⟩
  · apply agreesAt_of_agreesOn
    intro steps hs
    rw [steps?_compile hc] at hs
    have hsteps : steps = [⟨.required, none⟩, ⟨.confirm, none⟩] := by
      simpa [rules, Dict.get?, Pairs.lookup_cons, hpassword, Except.toOption] using hs.symm
    subst hsteps
    constructor
    case value => decide
    case companion => decide
    case file => simp
  · apply agreesAt_of_agreesOn
    intro steps hs
    rw [steps?_compile hc] at hs
    have hsteps : steps = [⟨.required, none⟩, ⟨.min, some "2"⟩] := by
      simpa [rules, Dict.get?, Pairs.lookup_cons, hname, Except.toOption] using hs.symm
    subst hsteps
    constructor
    case value => decide
    case companion => simp
    case file => simp

end Schema

end Formwork
