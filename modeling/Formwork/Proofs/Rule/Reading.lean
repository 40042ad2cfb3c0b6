import Formwork.Proofs.Rule.Outcome

/-! # What validation reads of a form

Every rule is handed the whole form, but reads little of it: a rule without argument the
first value of its field, `confirm` the one of the companion field as well, and two rules
the first file. Forms that agree on these are validated alike (`Schema.validate_congr`). No
rule of the smaller vocabulary looks for a file. So a url-encoded form is validated like a
multipart form with the same values, whatever files that one has
(`Form.validate_eq_multipart`).
-/

namespace Formwork

namespace Rule

variable {rule : Rule} {a b : Source} {field : String}

/-- The rule looks for a file of its field. -/
def readsFile : Rule → Bool
  | optionalFile => Bool.true
  | requiredFile => Bool.true
  | _ => Bool.false

/-- A check sees no more of a form than the companion of its field and its first file, and
most see neither. -/
theorem check_congr (hc : rule = .confirm → a.get (companionOf field) = b.get (companionOf field))
    (hf : rule.readsFile = Bool.true → a.file? field = b.file? field) (text : String)
    (state : FieldState) : rule.check a field text state = rule.check b field text state := by
  cases rule with
  | confirm =>
      have hcompanion := hc rfl
      simp only [check, hcompanion]
  | optionalFile =>
      have hfile := hf rfl
      simp only [check, hfile]
  | requiredFile =>
      have hfile := hf rfl
      simp only [check, hfile]
  | _ => rfl

end Rule

/-- The forms agree on all that a step of a field reads. -/
structure Source.AgreesAt (a b : Source) (field : String) (step : Step) : Prop where
  input : step.argument = none → a.get field = b.get field
  companion : step.rule = .confirm →
    a.get (Rule.companionOf field) = b.get (Rule.companionOf field)
  file : step.rule.readsFile = true → a.file? field = b.file? field

variable {a b : Source} {field : String}

theorem Step.run_congr {step : Step} (h : a.AgreesAt b field step) (state : FieldState) :
    step.run a field state = step.run b field state := by
  have hinput : step.input a field = step.input b field := by
    unfold input
    cases ha : step.argument with
    | none => rw [h.input ha]
    | some argument => rfl
  rw [run_eq_map, run_eq_map, hinput, Rule.check_congr h.companion h.file]

namespace FieldOutcome

theorem runFrom_congr {steps : List Step} (h : ∀ step ∈ steps, a.AgreesAt b field step)
    (state : FieldState) (kept : Option Value) :
    runFrom a field state kept steps = runFrom b field state kept steps := by
  induction steps generalizing state kept with
  | nil => rfl
  | cons step steps ih =>
      rw [List.forall_mem_cons] at h
      unfold runFrom
      rw [Step.run_congr h.1]
      split
      · rfl
      · cases step.run b field state with
        | error refusal => cases refusal <;> rfl
        | ok next => exact ih h.2 next _

theorem run_congr {steps : List Step} (h : ∀ step ∈ steps, a.AgreesAt b field step) :
    run a field steps = run b field steps :=
  runFrom_congr h {} none

end FieldOutcome

namespace Schema

variable {one other : Schema} {fields : List (String × List Step)}

theorem validateFields_congr (ho : one.overrides = other.overrides)
    (h : ∀ entry ∈ fields, ∀ step ∈ entry.2, a.AgreesAt b entry.1 step) (data : FormData)
    (errors : FieldErrors) :
    one.validateFields a data errors fields = other.validateFields b data errors fields := by
  induction fields generalizing data errors with
  | nil => rfl
  | cons entry fields ih =>
      obtain ⟨field, steps⟩ := entry
      rw [List.forall_mem_cons] at h
      unfold validateFields
      rw [FieldOutcome.run_congr h.1]
      cases FieldOutcome.run b field steps with
      | broken error => rfl
      | failed rule reason =>
          have hm : one.message field rule reason = other.message field rule reason := by
            rw [message, message, ho]
          simp only [hm]
          exact ih h.2 _ _
      | passed kept =>
          cases kept with
          | none => exact ih h.2 _ _
          | some value => exact ih h.2 _ _

/-- Forms that agree on what the steps read are validated alike. -/
theorem validate_congr (hs : one.fields = other.fields) (ho : one.overrides = other.overrides)
    (h : ∀ entry ∈ one.fields.entries, ∀ step ∈ entry.2, a.AgreesAt b entry.1 step) :
    one.validate a = other.validate b := by
  rw [validate, validate, validateFields_congr ho h, hs]

end Schema

/-! ## One vocabulary inside the other -/

/-- Every rule that the declaration names is in the vocabulary. -/
def RuleSpec.ResolvesIn (vocabulary : Vocabulary) (spec : RuleSpec) : Prop :=
  ∀ tokens, spec.tokens = .ok tokens →
    ∀ token ∈ tokens, (vocabulary.resolve? token.name).isSome = true

namespace Vocabulary

variable {name : String} {rule : Rule}

theorem resolve_eq_ok_iff {vocabulary : Vocabulary} :
    vocabulary.resolve name = .ok rule ↔ vocabulary.resolve? name = some rule := by
  unfold resolve
  cases vocabulary.resolve? name <;> simp

theorem readsFile_of_resolve? (h : form.resolve? name = some rule) : rule.readsFile = false := by
  have hall : ∀ r ∈ Rule.ofForms, r.readsFile = false := by decide
  exact hall rule (List.mem_of_find?_eq_some h)

/-- What a name means for forms it means for multipart forms. -/
theorem resolve?_multipart (h : form.resolve? name = some rule) :
    multipart.resolve? name = some rule := by
  unfold resolve? at h ⊢
  unfold rules at h ⊢
  rw [List.find?_append, h]
  rfl

end Vocabulary

namespace Step

variable {spec : RuleSpec}

theorem ofToken_multipart {token : Token}
    (h : (Vocabulary.form.resolve? token.name).isSome = true) :
    ofToken .multipart token = ofToken .form token := by
  obtain ⟨rule, hr⟩ := Option.isSome_iff_exists.1 h
  rw [ofToken, ofToken, Vocabulary.resolve, Vocabulary.resolve, hr,
    Vocabulary.resolve?_multipart hr]

theorem ofSpec_multipart (h : spec.ResolvesIn .form) :
    ofSpec .multipart spec = ofSpec .form spec := by
  unfold ofSpec
  cases ht : spec.tokens with
  | error error => rfl
  | ok tokens =>
      have hall := h tokens ht
      show tokens.mapM (ofToken .multipart) = tokens.mapM (ofToken .form)
      clear h ht
      induction tokens with
      | nil => rfl
      | cons token tokens ih =>
          rw [List.forall_mem_cons] at hall
          rw [List.mapM_cons, List.mapM_cons, ofToken_multipart hall.1, ih hall.2]

theorem resolve?_of_ofToken {vocabulary : Vocabulary} {token : Token} {step : Step}
    (h : ofToken vocabulary token = .ok step) :
    vocabulary.resolve? token.name = some step.rule := by
  obtain ⟨rule, hr, rfl⟩ := map_eq_ok.1 h
  exact Vocabulary.resolve_eq_ok_iff.1 hr

/-- A declaration that can be read names only rules of the vocabulary. -/
theorem resolvesIn_of_ofSpec {vocabulary : Vocabulary} {steps : List Step}
    (h : ofSpec vocabulary spec = .ok steps) : spec.ResolvesIn vocabulary := by
  intro tokens ht token hm
  obtain ⟨read, hr, hs⟩ := bind_eq_ok.1 h
  rw [ht] at hr
  cases hr
  obtain ⟨step, ho⟩ := exists_mapM_eq_ok_iff.1 ⟨steps, hs⟩ token hm
  rw [resolve?_of_ofToken ho]
  rfl

theorem readsFile_of_mem_ofSpec {steps : List Step} (h : ofSpec .form spec = .ok steps)
    {step : Step} (hm : step ∈ steps) : step.rule.readsFile = false := by
  obtain ⟨tokens, _, hs⟩ := bind_eq_ok.1 h
  obtain ⟨token, _, ho⟩ := exists_of_mem_of_mapM hs hm
  exact Vocabulary.readsFile_of_resolve? (resolve?_of_ofToken ho)

end Step

namespace Schema

variable {rules : Rules} {schema : Schema}

/-- Rules that are all known to forms have the same steps in both vocabularies, or the same
mistake. -/
theorem compile_multipart (h : ∀ entry ∈ rules.entries, entry.2.ResolvesIn .form) :
    compile rules .multipart =
      (compile rules .form).map fun schema => { schema with vocabulary := .multipart } := by
  have hfields : (rules.entries.mapM fun entry =>
        (Step.ofSpec .multipart entry.2).map fun steps => (entry.1, steps)) =
      rules.entries.mapM fun entry =>
        (Step.ofSpec .form entry.2).map fun steps => (entry.1, steps) := by
    apply mapM_congr
    intro entry he
    rw [Step.ofSpec_multipart (h entry he)]
  unfold compile
  rw [hfields]
  cases rules.entries.mapM fun entry =>
    (Step.ofSpec .form entry.2).map fun steps => (entry.1, steps) <;> rfl

theorem resolvesIn_of_compile (h : compile rules .form = .ok schema) :
    ∀ entry ∈ rules.entries, entry.2.ResolvesIn .form := by
  intro entry he
  obtain ⟨fields, hf, _⟩ := bind_eq_ok.1 h
  obtain ⟨field, ho⟩ := exists_mapM_eq_ok_iff.1 ⟨fields, hf⟩ entry he
  obtain ⟨steps, hs, _⟩ := map_eq_ok.1 ho
  exact Step.resolvesIn_of_ofSpec hs

/-- No step of a schema for forms looks for a file. -/
theorem readsFile_of_compile (h : compile rules .form = .ok schema) :
    ∀ entry ∈ schema.fields.entries, ∀ step ∈ entry.2, step.rule.readsFile = false := by
  intro entry he step hm
  have hs : schema.steps? entry.1 = some entry.2 := Dict.get?_eq_some_iff.2 he
  rw [steps?_compile h] at hs
  obtain ⟨spec, _, ho⟩ := Option.bind_eq_some_iff.1 hs
  cases hspec : Step.ofSpec .form spec with
  | error error =>
      rw [hspec] at ho
      cases ho
  | ok steps =>
      rw [hspec] at ho
      cases ho
      exact Step.readsFile_of_mem_ofSpec hspec hm

end Schema

/-- A form and a multipart form with the same values are validated alike, whatever files
there are, by rules that are all known to forms. Rules that can be compiled for forms have
the same steps when they are compiled for multipart forms. -/
theorem Form.validate_eq_multipart (rules : Rules) :
    ((∀ entry ∈ rules.entries, entry.2.ResolvesIn .form) →
      ∀ (pairs : List (String × String)) (files : List (String × File)) (overrides : Overrides),
        (Form.mk pairs).validate rules overrides =
          (MultipartForm.mk pairs files).validate rules overrides) ∧
    ∀ schema, Schema.compile rules .form = .ok schema →
      Schema.compile rules .multipart = .ok { schema with vocabulary := .multipart } := by
  constructor
  · intro hresolves pairs files overrides
    rw [validate, MultipartForm.validate, Schema.compile_multipart hresolves]
    cases hc : Schema.compile rules .form with
    | error error => rfl
    | ok schema =>
        -- both forms look up the same pairs, and files are not looked for
        refine Schema.validate_congr rfl rfl fun entry he step hm => ?_
        have hnofile : step.rule.readsFile = false :=
          Schema.readsFile_of_compile hc entry he step hm
        refine ⟨fun _ => rfl, fun _ => rfl, fun hfile => ?_⟩
        rw [hnofile] at hfile
        cases hfile
  · intro schema hc
    rw [Schema.compile_multipart (Schema.resolvesIn_of_compile hc), hc]
    rfl

/-- A name with a picture under the same key, and a picture without a name: the picture is not
looked at. -/
theorem Form.name_validates_alike :
    let rules : Rules := ⟨[("name", .piped "required|min:2")], by simp⟩
    let picture : File := ⟨some "ana.png", some "image/png", [0x89, 0x50]⟩
    (Form.mk [("name", " Ana ")]).validate rules ∅ =
        (MultipartForm.mk [("name", " Ana ")] [("name", picture)]).validate rules ∅ ∧
      (Form.mk []).validate rules ∅ =
        (MultipartForm.mk [] [("name", picture)]).validate rules ∅ := by
  intro rules picture
  have hspec : Step.ofSpec .form (.piped "required|min:2") =
      .ok [⟨.required, none⟩, ⟨.min, some "2"⟩] := by decide
  have hresolves : ∀ entry ∈ rules.entries, entry.2.ResolvesIn .form := by
    intro entry he
    cases List.mem_singleton.1 he
    exact Step.resolvesIn_of_ofSpec hspec
  have halike := (validate_eq_multipart rules).1 hresolves
  exact ⟨halike _ _ _, halike _ _ _⟩

end Formwork
