import Formwork.Proofs.Rule.Independence
import Formwork.Proofs.Rule.Skip

/-! # The first failure decides

A field is in the errors exactly if its steps split at one that fails behind steps that
were all taken with the skip flag down. The steps behind the failure have no say, and the
caller's words only take the place of the message that the failure has by itself
(`Schema.first_failure_decides`).
-/

namespace Formwork

/-- The message under a rule name, for a field. -/
def Overrides.under (overrides : Overrides) (field name : String) : Option String :=
  (overrides.messages.get? field).bind (·.get? name)

theorem Overrides.resolve?_eq_or (overrides : Overrides) (field rule : String) :
    overrides.resolve? field rule =
      (overrides.under field rule).or (overrides.under field wildcard) := by
  unfold resolve? under
  cases overrides.messages.get? field <;> rfl

/-- The steps in front are taken with the skip flag down, and then the step fails. -/
def FailsAt (source : Source) (field : String) (before : List Step) (step : Step)
    (reason : Failure) : Prop :=
  ∃ state, Passes source field {} before state ∧ state.skips = false ∧
    step.run source field state = .error (.failure reason)

namespace FieldOutcome

variable {source : Source} {field : String} {rule : Rule} {reason : Failure}

theorem exists_of_runFrom_eq_failed {steps : List Step} {state : FieldState} {kept : Option Value}
    (h : runFrom source field state kept steps = failed rule reason) :
    ∃ before step after last, steps = before ++ step :: after ∧ step.rule = rule ∧
      Passes source field state before last ∧ last.skips = false ∧
      step.run source field last = .error (.failure reason) := by
  induction steps generalizing state kept with
  | nil => cases h
  | cons step steps ih =>
      cases hs : state.skips with
      | true =>
          rw [runFrom_of_skips hs] at h
          cases h
      | false =>
          unfold runFrom at h
          rw [hs] at h
          cases hr : step.run source field state with
          | error refusal =>
              rw [hr] at h
              cases refusal with
              | misdeclared error => cases h
              | failure found =>
                  cases h
                  exact ⟨[], step, steps, state, rfl, rfl, .nil state, hs, hr⟩
          | ok next =>
              rw [hr] at h
              obtain ⟨before, failing, after, last, rfl, hrule, hp, hl, hf⟩ := ih h
              exact ⟨step :: before, failing, after, last, rfl, hrule, .cons hs hr hp, hl, hf⟩

/-- A field that fails at a step fails there whatever steps follow. -/
theorem run_of_failsAt {before : List Step} {step : Step}
    (h : FailsAt source field before step reason) (after : List Step) :
    run source field (before ++ step :: after) = failed step.rule reason := by
  obtain ⟨state, hp, hs, hf⟩ := h
  calc
    run source field (before ++ step :: after) =
        runFrom source field state state.working (step :: after) := hp.runFrom_append hs _
    _ = failed step.rule reason := by simp [runFrom, hs, hf]

theorem run_eq_failed_iff {steps : List Step} :
    run source field steps = failed rule reason ↔
      ∃ before step after, steps = before ++ step :: after ∧ step.rule = rule ∧
        FailsAt source field before step reason := by
  constructor
  · intro h
    obtain ⟨before, step, after, last, hsplit, hrule, hp, hl, hf⟩ := exists_of_runFrom_eq_failed h
    exact ⟨before, step, after, hsplit, hrule, last, hp, hl, hf⟩
  · rintro ⟨before, step, after, rfl, rfl, hf⟩
    exact run_of_failsAt hf after

end FieldOutcome

namespace Validated

/-- The message for a field in the errors. -/
def message? (outcome : Validated) (field : String) : Option String :=
  outcome.errors?.bind (·.get? field)

/-- The outcomes differ in the messages of the fields that fail, and in nothing else but
the order of entries. -/
inductive SameButMessages : Validated → Validated → Prop
  | invalid {a b : FieldErrors} (fields : ∀ field, a.contains field = b.contains field) :
      SameButMessages (.invalid a) (.invalid b)
  | valid {a b : FormData} (same : Dict.Same a b) : SameButMessages (.valid a) (.valid b)

end Validated

namespace Schema

variable {schema : Schema} {source : Source} {rules : Rules} {vocabulary : Vocabulary}

/-! ## Messages -/

@[simp] theorem outcome?_withOverrides (schema : Schema) (overrides : Overrides) (source : Source)
    (field : String) :
    (schema.withOverrides overrides).outcome? source field = schema.outcome? source field := rfl

@[simp] theorem kept?_withOverrides (schema : Schema) (overrides : Overrides) (source : Source)
    (field : String) :
    (schema.withOverrides overrides).kept? source field = schema.kept? source field := rfl

theorem message?_of_validate {outcome : Validated} (h : schema.validate source = .ok outcome)
    (field : String) : outcome.message? field = schema.error? source field := by
  cases outcome with
  | invalid errors => exact get?_of_invalid h field
  | valid data =>
      obtain ⟨_, passes⟩ := (schema.exists_valid_iff source).1 ⟨data, h⟩
      exact (passes field).symm

theorem error?_eq_some_iff {field message : String} :
    schema.error? source field = some message ↔
      ∃ rule reason, schema.outcome? source field = some (.failed rule reason) ∧
        schema.message field rule reason = message := by
  rw [error?]
  cases schema.outcome? source field with
  | none => simp
  | some outcome => cases outcome <;> simp [FieldOutcome.message?]

/-- Whether a field is in the errors does not depend on the caller's words. -/
theorem error?_withOverrides_eq_none_iff {overrides : Overrides} {field : String} :
    (schema.withOverrides overrides).error? source field = none ↔
      schema.error? source field = none := by
  rw [error?, error?, outcome?_withOverrides]
  cases schema.outcome? source field with
  | none => simp
  | some outcome => cases outcome <;> simp [FieldOutcome.message?]

theorem outcome?_eq_failed_iff (compiled : compile rules vocabulary = .ok schema) {field : String}
    {rule : Rule} {reason : Failure} :
    schema.outcome? source field = some (.failed rule reason) ↔
      ∃ spec before step after, rules.get? field = some spec ∧
        Step.ofSpec vocabulary spec = .ok (before ++ step :: after) ∧ step.rule = rule ∧
        FailsAt source field before step reason := by
  rw [outcome?, steps?_compile compiled]
  constructor
  · intro h
    obtain ⟨steps, hs, hr⟩ := Option.map_eq_some_iff.1 h
    obtain ⟨spec, hf, ho⟩ := Option.bind_eq_some_iff.1 hs
    obtain ⟨before, step, after, rfl, hrule, hfail⟩ := FieldOutcome.run_eq_failed_iff.1 hr
    refine ⟨spec, before, step, after, hf, ?_, hrule, hfail⟩
    cases hspec : Step.ofSpec vocabulary spec with
    | error error =>
        rw [hspec] at ho
        cases ho
    | ok steps =>
        rw [hspec] at ho
        cases ho
        rfl
  · rintro ⟨spec, before, step, after, hf, ho, rfl, hfail⟩
    rw [hf, Option.bind_some, ho]
    exact congrArg some (FieldOutcome.run_of_failsAt hfail after)

theorem sameButMessages_withOverrides {one other : Overrides} {a b : Validated}
    (ha : (schema.withOverrides one).validate source = .ok a)
    (hb : (schema.withOverrides other).validate source = .ok b) : a.SameButMessages b := by
  have hfails : ∀ field, (schema.withOverrides one).error? source field = none ↔
      (schema.withOverrides other).error? source field = none := fun field => by
    rw [error?_withOverrides_eq_none_iff, error?_withOverrides_eq_none_iff]
  cases a with
  | invalid errors =>
      obtain ⟨_, field, hf⟩ := (exists_invalid_iff _ source).1 ⟨errors, ha⟩
      cases b with
      | invalid others =>
          refine .invalid fun key => ?_
          rw [Dict.contains, Dict.contains, get?_of_invalid ha, get?_of_invalid hb, Bool.eq_iff_iff,
            Option.isSome_iff_ne_none, Option.isSome_iff_ne_none]
          exact not_congr (hfails key)
      | valid data =>
          obtain ⟨_, passes⟩ := (exists_valid_iff _ source).1 ⟨data, hb⟩
          exact absurd ((hfails field).2 (passes field)) hf
  | valid data =>
      obtain ⟨_, passes⟩ := (exists_valid_iff _ source).1 ⟨data, ha⟩
      cases b with
      | invalid errors =>
          obtain ⟨_, field, hf⟩ := (exists_invalid_iff _ source).1 ⟨errors, hb⟩
          exact absurd ((hfails field).1 (passes field)) hf
      | valid others =>
          refine .valid fun key => ?_
          rw [get?_of_valid ha, get?_of_valid hb, kept?_withOverrides, kept?_withOverrides]

/-! ## The steps behind a failure -/

theorem exists_compile_insert (compiled : compile rules vocabulary = .ok schema) {field : String}
    {spec : RuleSpec} {steps : List Step} (hs : Step.ofSpec vocabulary spec = .ok steps) :
    ∃ changed, compile (rules.insert field spec) vocabulary = .ok changed := by
  rw [exists_compile_iff]
  intro key found hf
  rw [Dict.get?_insert] at hf
  split at hf
  · cases hf
    exact ⟨steps, hs⟩
  · exact exists_compile_iff.1 ⟨schema, compiled⟩ key found hf

/-- Where a field fails at a step, other steps behind it change nothing. -/
theorem outcome?_of_same_failure {changed : Schema} {field : String} {spec spec' : RuleSpec}
    {before after other : List Step} {step : Step} {reason : Failure}
    (compiled : compile rules vocabulary = .ok schema)
    (recompiled : compile (rules.insert field spec') vocabulary = .ok changed)
    (hf : rules.get? field = some spec)
    (hs : Step.ofSpec vocabulary spec = .ok (before ++ step :: after))
    (hs' : Step.ofSpec vocabulary spec' = .ok (before ++ step :: other))
    (hfail : FailsAt source field before step reason) (key : String) :
    changed.outcome? source key = schema.outcome? source key := by
  by_cases hk : key = field
  · subst hk
    have hold : schema.outcome? source key = some (.failed step.rule reason) :=
      (outcome?_eq_failed_iff compiled).2 ⟨spec, before, step, after, hf, hs, rfl, hfail⟩
    have hnew : changed.outcome? source key = some (.failed step.rule reason) :=
      (outcome?_eq_failed_iff recompiled).2
        ⟨spec', before, step, other, by simp, hs', rfl, hfail⟩
    rw [hold, hnew]
  · rw [outcome?, outcome?, steps?_compile recompiled, steps?_compile compiled,
      Dict.get?_insert, if_neg hk]

/-- Where no field is misconfigured, a field is in the errors exactly if one of its rules
fails behind rules that all succeed without a skip, and its message is the caller's for
this rule, else the caller's for every rule of the field, else the rule's own. The rules
behind the failure have no say in the errors, and the caller's words none in which fields
fail or what a valid form holds. -/
theorem first_failure_decides (compiled : compile rules vocabulary = .ok schema)
    (sound : schema.IsSound source) (overrides : Overrides) :
    ∃ outcome, (schema.withOverrides overrides).validate source = .ok outcome ∧
      (∀ field message, outcome.message? field = some message ↔
        ∃ spec before step after reason, rules.get? field = some spec ∧
          Step.ofSpec vocabulary spec = .ok (before ++ step :: after) ∧
          FailsAt source field before step reason ∧
          message = ((overrides.under field step.rule.name).or
            (overrides.under field "*")).getD (reason.message field)) ∧
      (∀ field spec before step after reason, rules.get? field = some spec →
        Step.ofSpec vocabulary spec = .ok (before ++ step :: after) →
        FailsAt source field before step reason →
        ∀ spec' other, Step.ofSpec vocabulary spec' = .ok (before ++ step :: other) →
          ∃ changed outcome', compile (rules.insert field spec') vocabulary = .ok changed ∧
            (changed.withOverrides overrides).validate source = .ok outcome' ∧
            ∀ key, outcome'.message? key = outcome.message? key) ∧
      ∀ others, ∃ outcome', (schema.withOverrides others).validate source = .ok outcome' ∧
        outcome.SameButMessages outcome' := by
  have hrun : ∀ words, ∃ outcome, (schema.withOverrides words).validate source = .ok outcome :=
    fun words => (exists_ok_iff _ source).2 sound
  obtain ⟨outcome, ho⟩ := hrun overrides
  refine ⟨outcome, ho, fun field message => ?_, ?_, fun others => ?_⟩
  · rw [message?_of_validate ho, error?_eq_some_iff]
    simp only [outcome?_withOverrides, outcome?_eq_failed_iff compiled]
    constructor
    · rintro ⟨rule, reason, ⟨spec, before, step, after, hf, hs, rfl, hfail⟩, rfl⟩
      refine ⟨spec, before, step, after, reason, hf, hs, hfail, ?_⟩
      rw [Schema.message, withOverrides, Overrides.resolve?_eq_or]
      rfl
    · rintro ⟨spec, before, step, after, reason, hf, hs, hfail, rfl⟩
      refine ⟨step.rule, reason, ⟨spec, before, step, after, hf, hs, rfl, hfail⟩, ?_⟩
      rw [Schema.message, withOverrides, Overrides.resolve?_eq_or]
      rfl
  · intro field spec before step after reason hf hs hfail spec' other hs'
    obtain ⟨changed, hc⟩ : ∃ changed, compile (rules.insert field spec') vocabulary = .ok changed :=
      exists_compile_insert compiled hs'
    have hsame : ∀ key, changed.outcome? source key = schema.outcome? source key :=
      outcome?_of_same_failure compiled hc hf hs hs' hfail
    have hsound : (changed.withOverrides overrides).IsSound source := by
      intro key error
      rw [outcome?_withOverrides, hsame]
      exact sound key error
    obtain ⟨outcome', ho'⟩ := (exists_ok_iff _ source).2 hsound
    refine ⟨changed, outcome', hc, ho', fun key => ?_⟩
    rw [message?_of_validate ho', message?_of_validate ho, error?, error?, outcome?_withOverrides,
      outcome?_withOverrides, hsame]
    rfl
  · obtain ⟨outcome', ho'⟩ := hrun others
    exact ⟨outcome', ho', sameButMessages_withOverrides ho ho'⟩

/-- A field that fails at its second rule, with a message in the caller's words. -/
theorem age_fails_at_int :
    let rules : Rules := ⟨[("age", .piped "required|int|min:18")], by simp⟩
    let source := (Form.mk [("age", "abc")]).source
    let overrides := (∅ : Overrides).fallback "age" "age looks wrong"
    ∃ schema outcome, compile rules .form = .ok schema ∧ schema.IsSound source ∧
      (schema.withOverrides overrides).validate source = .ok outcome ∧
      outcome.message? "age" = some "age looks wrong" ∧
      (∃ changed outcome',
        compile (rules.insert "age" (.piped "required|int")) .form = .ok changed ∧
        (changed.withOverrides overrides).validate source = .ok outcome' ∧
        outcome'.message? "age" = some "age looks wrong") ∧
      ∃ plain, (schema.withOverrides ∅).validate source = .ok plain ∧
        plain.message? "age" = some "age value must be an integer" ∧
        outcome.SameButMessages plain := by
  intro rules source overrides
  let before : List Step := [⟨.required, none⟩]
  let step : Step := ⟨.int, none⟩
  let after : List Step := [⟨.min, some "18"⟩]
  have hs : Step.ofSpec .form (.piped "required|int|min:18") = .ok (before ++ step :: after) := by
    decide
  have hs' : Step.ofSpec .form (.piped "required|int") = .ok (before ++ step :: []) := by decide
  have hfail : FailsAt source "age" before step .notInteger :=
    ⟨⟨some (.text "abc"), false⟩, .cons rfl (by decide) (.nil _), rfl, by decide⟩
  have hf : rules.get? "age" = some (.piped "required|int|min:18") := rfl
  obtain ⟨schema, hc⟩ : ∃ schema, compile rules .form = .ok schema :=
    ⟨_, by simp [compile, rules, hs]; rfl⟩
  have hsound : schema.IsSound source := by
    intro field error
    by_cases hk : "age" = field
    · subst hk
      rw [(outcome?_eq_failed_iff hc).2 ⟨_, before, step, after, hf, hs, rfl, hfail⟩]
      intro hb
      cases hb
    · have hn : rules.get? field = none := by simp [Dict.get?, Pairs.lookup_cons, rules, Ne.symm hk]
      rw [outcome?, steps?_compile hc, hn]
      intro hb
      cases hb
  obtain ⟨outcome, ho, hmessage, hsuffix, hothers⟩ := first_failure_decides hc hsound overrides
  have hm : outcome.message? "age" = some "age looks wrong" :=
    (hmessage "age" _).2 ⟨_, before, step, after, _, hf, hs, hfail, rfl⟩
  obtain ⟨changed, outcome', hc', ho', hsame⟩ :=
    hsuffix "age" _ before step after _ hf hs hfail _ [] hs'
  obtain ⟨plain, hp, hbut⟩ := hothers ∅
  obtain ⟨plain', hp', hdefault, _, _⟩ := first_failure_decides hc hsound ∅
  cases hp.symm.trans hp'
  exact ⟨schema, outcome, hc, hsound, ho, hm, ⟨changed, outcome', hc', ho', by rw [hsame, hm]⟩,
    plain, hp, (hdefault "age" _).2 ⟨_, before, step, after, _, hf, hs, hfail, rfl⟩, hbut⟩

end Schema

end Formwork
